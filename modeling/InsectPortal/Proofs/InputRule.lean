import Mathlib.Data.List.DropRight
import InsectPortal.Operation

/-!
# Rules for inputs

What a form and the arguments of an operation have to obey, as a list of rules in the order in which
they are looked at. A check passes exactly where all of its rules hold, and otherwise it tells the
first one that is broken. Such a failure never says anything about the token of the session.
-/
namespace InsectPortal

namespace Text

def IsFilled (s : String) : Prop := ∃ c ∈ s.toList, isBlank c = false

structure IsTrimmed (s : String) : Prop where
  first : ∀ c ∈ s.toList.head?, isBlank c = false
  last : ∀ c ∈ s.toList.getLast?, isBlank c = false

theorem isFilled_iff {s : String} : IsFilled s ↔ isBlankText s = false := by
  simp [IsFilled, isBlankText]

theorem toList_trim (s : String) :
    (trim s).toList = (s.toList.dropWhile isBlank).rdropWhile isBlank := by
  rw [trim, String.toList_ofList]
  rfl

theorem isTrimmed_trim (s : String) : IsTrimmed (trim s) := by
  constructor
  · intro c hc
    rw [toList_trim] at hc
    obtain ⟨rest, hrest⟩ := List.rdropWhile_prefix isBlank (s.toList.dropWhile isBlank)
    cases hk : (s.toList.dropWhile isBlank).rdropWhile isBlank with
    | nil =>
      rw [hk] at hc
      cases hc
    | cons d kept =>
      rw [hk] at hc hrest
      obtain rfl : d = c := Option.some.inj hc
      have hfirst := List.head?_dropWhile_not isBlank s.toList
      rw [← hrest] at hfirst
      exact hfirst
  · intro c hc
    rw [toList_trim] at hc
    obtain ⟨hne, rfl⟩ := List.mem_getLast?_eq_getLast hc
    exact Bool.eq_false_iff.mpr (List.rdropWhile_last_not isBlank _ hne)

theorem mem_trim_of_not_blank {s : String} {c : Char} (hc : isBlank c = false) :
    c ∈ (trim s).toList ↔ c ∈ s.toList := by
  have hdrop : ∀ l : List Char, c ∈ l.dropWhile isBlank ↔ c ∈ l := by
    intro l
    constructor
    · exact fun h => (List.dropWhile_sublist isBlank).subset h
    · intro h
      rw [← List.takeWhile_append_dropWhile (p := isBlank) (l := l), List.mem_append] at h
      refine h.resolve_left fun ht => ?_
      exact Bool.false_ne_true (hc.symm.trans (List.mem_takeWhile_imp ht))
  rw [toList_trim, List.rdropWhile, List.mem_reverse, hdrop, List.mem_reverse, hdrop]

theorem isFilled_trim {s : String} : IsFilled (trim s) ↔ IsFilled s := by
  constructor
  · rintro ⟨c, hmem, hc⟩
    exact ⟨c, (mem_trim_of_not_blank hc).mp hmem, hc⟩
  · rintro ⟨c, hmem, hc⟩
    exact ⟨c, (mem_trim_of_not_blank hc).mpr hmem, hc⟩

end Text

/-- What a field has to obey, and what is told where it does not. -/
structure Rule where
  field : String
  holds : Prop
  message : String

namespace Rule

def failure (x : Rule) : Failure := .validation x.field x.message

/-- Of these rules `x` is the first that is broken. -/
def FirstBroken (rules : List Rule) (x : Rule) : Prop :=
  ∃ before after, rules = before ++ x :: after ∧ (∀ y ∈ before, y.holds) ∧ ¬ x.holds

/-- The check passes where the rules hold, and else tells the first broken one. -/
structure Decides (rules : List Rule) (check : Except Failure Unit) : Prop where
  passes : (∀ x ∈ rules, x.holds) → check = .ok ()
  tells : ∀ x, FirstBroken rules x → check = .error x.failure

theorem exists_firstBroken {rules : List Rule} (h : ¬ ∀ x ∈ rules, x.holds) :
    ∃ x, FirstBroken rules x := by
  induction rules with
  | nil => exact absurd (fun x hx => by cases hx) h
  | cons y rules ih =>
    by_cases hy : y.holds
    · have hrest : ¬ ∀ x ∈ rules, x.holds := fun hr => h (List.forall_mem_cons.mpr ⟨hy, hr⟩)
      obtain ⟨x, before, after, rfl, hbefore, hx⟩ := ih hrest
      exact ⟨x, y :: before, after, rfl, List.forall_mem_cons.mpr ⟨hy, hbefore⟩, hx⟩
    · exact ⟨y, [], rules, rfl, by simp, hy⟩

variable {rules rules' : List Rule} {check check' : Except Failure Unit}

theorem Decides.ok_iff (h : Decides rules check) : check = .ok () ↔ ∀ x ∈ rules, x.holds := by
  constructor
  · intro hc
    by_contra hn
    obtain ⟨x, hx⟩ := exists_firstBroken hn
    cases hc.symm.trans (h.tells x hx)
  · exact h.passes

theorem decides_nil : Decides [] (.ok ()) := by
  refine ⟨fun _ => rfl, ?_⟩
  rintro x ⟨before, after, heq, _⟩
  cases before <;> cases heq

theorem decides_one {x : Rule} (hpass : x.holds → check = .ok ())
    (htell : ¬ x.holds → check = .error x.failure) : Decides [x] check := by
  constructor
  · intro h
    exact hpass (h x List.mem_cons_self)
  · rintro y ⟨before, after, heq, _, hy⟩
    cases before with
    | nil =>
      obtain ⟨rfl, _⟩ := List.cons.inj heq
      exact htell hy
    | cons z before =>
      have := (List.cons.inj heq).2
      cases before <;> cases this

/-- The rules of a check come before those of the check that follows it. -/
theorem Decides.bind (h : Decides rules check) (h' : Decides rules' check') :
    Decides (rules ++ rules') (check >>= fun _ => check') := by
  constructor
  · intro hall
    obtain ⟨hleft, hright⟩ := List.forall_mem_append.mp hall
    rw [h.passes hleft]
    exact h'.passes hright
  · rintro x ⟨before, after, heq, hbefore, hx⟩
    rcases List.append_eq_append_iff.mp heq with ⟨mid, rfl, hrest⟩ | ⟨mid, rfl, hrest⟩
    · have hleft : ∀ y ∈ rules, y.holds := (List.forall_mem_append.mp hbefore).1
      have hmid : ∀ y ∈ mid, y.holds := (List.forall_mem_append.mp hbefore).2
      rw [h.passes hleft]
      exact h'.tells x ⟨mid, after, hrest, hmid, hx⟩
    · cases mid with
      | nil =>
        rw [List.nil_append] at hrest
        rw [List.append_nil] at h
        rw [h.passes hbefore]
        exact h'.tells x ⟨[], after, hrest.symm, by simp, hx⟩
      | cons y mid =>
        obtain ⟨rfl, rfl⟩ := List.cons.inj hrest
        rw [h.tells x ⟨before, mid, rfl, hbefore, hx⟩]
        rfl

end Rule

def IsValidation (r : Except Failure Unit) : Prop :=
  ∀ e, r = .error e → e.kind = .validation

theorem IsValidation.not_authorization {r : Except Failure Unit} {e : Failure}
    (h : IsValidation r) (he : r = .error e) : e.isAuthorization = false := by
  simp [Failure.isAuthorization, h e he]

theorem Rule.Decides.isValidation {rules : List Rule} {check : Except Failure Unit}
    (h : Decides rules check) : IsValidation check := by
  intro e he
  have hbroken : ¬ ∀ x ∈ rules, x.holds := by
    intro hall
    cases he.symm.trans (h.passes hall)
  obtain ⟨x, hx⟩ := exists_firstBroken hbroken
  cases he.symm.trans (h.tells x hx)
  rfl

namespace Account

/-- 8 to 16 characters, an ASCII letter and an ASCII digit among them. -/
structure IsGoodPassword (s : String) : Prop where
  long : 8 ≤ s.length
  short : s.length ≤ 16
  letter : ∃ c ∈ s.toList, ('A' ≤ c ∧ c ≤ 'Z') ∨ ('a' ≤ c ∧ c ≤ 'z')
  digit : ∃ c ∈ s.toList, '0' ≤ c ∧ c ≤ '9'

theorem isPassword_iff {s : String} : isPassword s = true ↔ IsGoodPassword s := by
  have hletter : ∀ c : Char, c.isAlpha = true ↔ ('A' ≤ c ∧ c ≤ 'Z') ∨ ('a' ≤ c ∧ c ≤ 'z') := by
    intro c
    have halpha : c.isAlpha =
        (decide ('A' ≤ c ∧ c ≤ 'Z') || decide ('a' ≤ c) && decide (c ≤ 'z')) := rfl
    simp [halpha]
  have hdigit : ∀ c : Char, c.isDigit = true ↔ '0' ≤ c ∧ c ≤ '9' := by
    intro c
    have hrange : c.isDigit = (decide ('0' ≤ c) && decide (c ≤ '9')) := rfl
    simp [hrange]
  simp only [isPassword, Bool.and_eq_true, decide_eq_true_eq, List.any_eq_true, hletter, hdigit]
  constructor
  · rintro ⟨⟨⟨hmin, hmax⟩, hl⟩, hd⟩
    exact ⟨hmin, hmax, hl, hd⟩
  · intro h
    exact ⟨⟨⟨h.long, h.short⟩, h.letter⟩, h.digit⟩

theorem IsGoodPassword.isFilled {s : String} (h : IsGoodPassword s) : Text.IsFilled s := by
  obtain ⟨c, hc, hmin, hmax⟩ := h.digit
  have hlow : 48 ≤ c.toNat := hmin
  have hhigh : c.toNat ≤ 57 := hmax
  refine ⟨c, hc, ?_⟩
  simp [Text.isBlank]
  omega

def rules (username email password repassword : String) : List Rule :=
  [⟨"username", Text.IsFilled username, "Please input your username!"⟩,
    ⟨"email", Text.IsFilled email, "Please input your Email!"⟩,
    ⟨"password", IsGoodPassword password, "Need 8-16 characters containing letters and numbers"⟩,
    ⟨"repassword", Text.IsFilled repassword, "Please confirm your password!"⟩,
    ⟨"repassword", repassword = password, "Please keep the same to your password above!"⟩]

theorem required_decides (field value message : String) :
    Rule.Decides [⟨field, Text.IsFilled value, message⟩] (required field value message) := by
  apply Rule.decides_one
  · intro h
    rw [required, Text.isFilled_iff.mp h]
    rfl
  · intro h
    have hblank : Text.isBlankText value = true := by
      by_contra hn
      exact h (Text.isFilled_iff.mpr (Bool.eq_false_iff.mpr hn))
    rw [required, hblank]
    rfl

theorem checkPassword_decides (password : String) :
    Rule.Decides [⟨"password", IsGoodPassword password,
      "Need 8-16 characters containing letters and numbers"⟩] (checkPassword password) := by
  apply Rule.decides_one
  · intro h
    rw [checkPassword, if_pos (isPassword_iff.mpr h)]
  · intro h
    rw [checkPassword, if_neg fun hp => h (isPassword_iff.mp hp)]
    rfl

theorem check_decides (username email password repassword : String) :
    Rule.Decides (rules username email password repassword)
      (check username email password repassword) := by
  have hrepeat : Rule.Decides [⟨"repassword", repassword = password,
      "Please keep the same to your password above!"⟩] (if repassword = password then .ok ()
        else .error (.validation "repassword" "Please keep the same to your password above!")) :=
    Rule.decides_one (fun h => if_pos h) fun h => if_neg h
  exact (required_decides _ _ _).bind ((required_decides _ _ _).bind
    ((checkPassword_decides _).bind ((required_decides _ _ _).bind hrepeat)))

structure IsSound (username email password repassword : String) : Prop where
  named : Text.IsFilled username
  addressed : Text.IsFilled email
  secured : IsGoodPassword password
  confirmed : repassword = password

theorem rules_hold_iff {username email password repassword : String} :
    (∀ x ∈ rules username email password repassword, x.holds) ↔
      IsSound username email password repassword := by
  simp only [rules, List.forall_mem_cons, List.not_mem_nil, false_imp_iff, implies_true, and_true]
  constructor
  · rintro ⟨hu, he, hp, _, hr⟩
    exact ⟨hu, he, hp, hr⟩
  · rintro ⟨hu, he, hp, rfl⟩
    exact ⟨hu, he, hp, hp.isFilled, rfl⟩

end Account

namespace SignInForm

def rules (f : SignInForm) : List Rule :=
  [⟨"useremail", Text.IsFilled f.useremail, "Please input your user email!"⟩,
    ⟨"password", Text.IsFilled f.password, "Please input your password!"⟩]

theorem check_decides (f : SignInForm) : Rule.Decides f.rules f.check :=
  (Account.required_decides _ _ _).bind (Account.required_decides _ _ _)

theorem useremail_ne_empty {f : SignInForm} (h : f.check = .ok ()) : f.useremail ≠ "" := by
  intro he
  obtain ⟨c, hc, _⟩ : Text.IsFilled f.useremail := f.check_decides.ok_iff.mp h _ List.mem_cons_self
  rw [he] at hc
  cases hc

end SignInForm

namespace SignUpForm

def rules (f : SignUpForm) : List Rule := Account.rules f.username f.email f.password f.repassword

theorem check_decides (f : SignUpForm) : Rule.Decides f.rules f.check := Account.check_decides ..

end SignUpForm

namespace AdminForm

def rules (f : AdminForm) : List Rule :=
  Account.rules f.username f.email f.password f.repassword ++
    [⟨"role", f.role = .userAdmin ∨ f.role = .modelAdmin,
      "Please choose User Admin or Model Admin!"⟩]

theorem check_decides (f : AdminForm) : Rule.Decides f.rules f.check := by
  refine (Account.check_decides ..).bind (Rule.decides_one ?_ ?_)
  · rintro (h | h) <;> simp [h, isAdminRole]
  · intro h
    cases hr : f.role <;> simp_all [isAdminRole, Rule.failure]

end AdminForm

namespace SectionTask

def rules : SectionTask → List Rule
  | .toggleUsers emails => [⟨"user_emails", emails ≠ [], "Please choose at least one user!"⟩]
  | .addAdmin form => form.rules
  | .reviewFeedback decisions =>
    [⟨"files_to_operate", decisions ≠ [], "Please choose at least one feedback!"⟩]
  | .submitFeedback files =>
    [⟨"file_with_label_list", files ≠ [], "Please choose the pictures to give feedback on!"⟩]
  | .submitLabel image label =>
    [⟨"image_label", Text.IsFilled image ∧ Text.IsFilled label,
      "Please input the label of this picture!"⟩]
  | .userInfo | .listUsers | .listFeedback | .labelTasks | .authenticateSsh => []

theorem check_decides (task : SectionTask) : Rule.Decides task.rules task.check := by
  cases task with
  | addAdmin form => exact form.check_decides
  | toggleUsers list | reviewFeedback list | submitFeedback list =>
    apply Rule.decides_one
    · intro h
      simp_all [check]
    · intro h
      simp_all [check, Rule.failure]
  | submitLabel image label =>
    apply Rule.decides_one
    · rintro ⟨hi, hl⟩
      simp [check, Text.isFilled_iff.mp hi, Text.isFilled_iff.mp hl]
    · intro h
      change ¬ (Text.IsFilled image ∧ Text.IsFilled label) at h
      rw [Text.isFilled_iff, Text.isFilled_iff] at h
      cases hi : Text.isBlankText image <;> cases hl : Text.isBlankText label <;>
        simp_all [check, Rule.failure]
  | userInfo | listUsers | listFeedback | labelTasks | authenticateSsh => exact Rule.decides_nil

theorem check_isValidation (task : SectionTask) : IsValidation task.check :=
  task.check_decides.isValidation

theorem not_authorization {task : SectionTask} {e : Failure} (h : task.check = .error e) :
    e.isAuthorization = false :=
  task.check_isValidation.not_authorization h

end SectionTask

end InsectPortal
