import InsectPortal.Json.Text

/-!
# What the machine has read

At every point the tokens read so far are those written for the open containers and for what was
begun in the innermost of them. So the machine accepts nothing but what `write` writes.
-/
namespace InsectPortal.Json

def writeOpenItems (items : List Json) : List Token := items.flatMap fun v => v.write ++ [.comma]

def writeOpenMembers (members : List (Literal × Json)) : List Token :=
  members.flatMap fun m => .text m.1 :: .colon :: (m.2.write ++ [.comma])

theorem writeItems_concat (items : List Json) (v : Json) :
    writeItems (items ++ [v]) = writeOpenItems items ++ v.write := by
  induction items with
  | nil => rfl
  | cons w rest ih =>
    have hne : rest ++ [v] ≠ [] := by simp
    obtain ⟨x, xs, hx⟩ := List.exists_cons_of_ne_nil hne
    rw [hx] at ih
    rw [List.cons_append, hx, writeItems, ih]
    simp [writeOpenItems]

theorem writeMembers_concat (members : List (Literal × Json)) (k : Literal) (v : Json) :
    writeMembers (members ++ [(k, v)]) =
      writeOpenMembers members ++ .text k :: .colon :: v.write := by
  induction members with
  | nil => rfl
  | cons m rest ih =>
    have hne : rest ++ [(k, v)] ≠ [] := by simp
    obtain ⟨x, xs, hx⟩ := List.exists_cons_of_ne_nil hne
    rw [hx] at ih
    rw [List.cons_append, hx, writeMembers, ih]
    simp [writeOpenMembers]

def Frame.written : Frame → List Token
  | .array before => .openArray :: writeOpenItems before.reverse
  | .object before key =>
    .openObject :: (writeOpenMembers before.reverse ++ [.text key, .colon])

def Expect.written : Expect → List Token
  | .value => []
  | .firstItem => [.openArray]
  | .firstKey => [.openObject]
  | .key before => .openObject :: writeOpenMembers before.reverse
  | .colon before k => .openObject :: (writeOpenMembers before.reverse ++ [.text k])
  | .done v => v.write

namespace Machine

/-- The tokens of the open frames, the outermost first, and of what the machine is about to read. -/
def written (m : Machine) : List Token :=
  m.frames.reverse.flatMap Frame.written ++ m.expect.written

variable {m m' : Machine} {t : Token} {ts : List Token} {frames : List Frame}

theorem written_startValue (h : startValue frames t = some m') :
    m'.written = frames.reverse.flatMap Frame.written ++ [t] := by
  cases t with
  | null | bool | number | text | openArray | openObject =>
    cases h
    rfl
  | closeArray | closeObject | comma | colon => cases h

theorem written_close {v : Json} {f : Frame} (h : close v frames f t = some m') :
    m'.written = frames.reverse.flatMap Frame.written ++ (f.written ++ v.write) ++ [t] := by
  cases f with
  | array before =>
    cases t with
    | comma =>
      cases h
      simp [written, Frame.written, Expect.written, writeOpenItems]
    | closeArray =>
      cases h
      simp [written, Frame.written, Expect.written, write, writeItems_concat]
    | null | bool | number | text | openArray | openObject | closeObject | colon => cases h
  | object before key =>
    cases t with
    | comma =>
      cases h
      simp [written, Frame.written, Expect.written, writeOpenMembers]
    | closeObject =>
      cases h
      simp [written, Frame.written, Expect.written, write, writeMembers_concat]
    | null | bool | number | text | openArray | openObject | closeArray | colon => cases h

/-- A step writes down the token it reads. -/
theorem written_step (h : m.step t = some m') : m'.written = m.written ++ [t] := by
  obtain ⟨expect, frames⟩ := m
  cases expect with
  | value =>
    rw [written_startValue h]
    simp [written, Expect.written]
  | firstItem =>
    by_cases ht : t = .closeArray
    · subst ht
      cases h
      simp [written, Expect.written, write, writeItems]
    · rw [step_firstItem frames t ht] at h
      rw [written_startValue h]
      simp [written, Expect.written, Frame.written, writeOpenItems]
  | firstKey =>
    cases t with
    | closeObject | text =>
      cases h
      simp [written, Expect.written, write, writeMembers, writeOpenMembers]
    | null | bool | number | openArray | openObject | closeArray | comma | colon => cases h
  | key before =>
    cases t with
    | text =>
      cases h
      simp [written, Expect.written]
    | null | bool | number | openArray | openObject | closeArray | closeObject | comma | colon =>
      cases h
  | colon before key =>
    cases t with
    | colon =>
      cases h
      simp [written, Expect.written, Frame.written]
    | null | bool | number | text | openArray | openObject | closeArray | closeObject | comma =>
      cases h
  | done v =>
    cases frames with
    | nil => cases h
    | cons f frames =>
      rw [written_close h]
      simp [written, Expect.written]

theorem written_run (h : m.run ts = some m') : m'.written = m.written ++ ts := by
  induction ts generalizing m with
  | nil =>
    rw [← Option.some.inj h, List.append_nil]
  | cons t ts ih =>
    rw [run] at h
    cases hstep : m.step t with
    | none =>
      rw [hstep] at h
      cases h
    | some m₁ =>
      rw [hstep] at h
      rw [ih h, written_step hstep]
      simp

theorem written_of_result? {v : Json} (h : m.result? = some v) : m.written = v.write := by
  obtain ⟨expect, frames⟩ := m
  cases expect with
  | done w =>
    cases frames with
    | nil =>
      cases h
      rfl
    | cons f frames => cases h
  | value | firstItem | firstKey | key | colon => cases h

end Machine

theorem ofTokens?_eq_some_iff {ts : List Token} {v : Json} :
    ofTokens? ts = some v ↔ ts = v.write := by
  constructor
  · intro h
    obtain ⟨m, hrun, hresult⟩ := Option.bind_eq_some_iff.mp h
    have hread := Machine.written_run hrun
    rw [Machine.written_of_result? hresult] at hread
    exact hread.symm
  · intro h
    rw [h]
    exact ofTokens?_write v

end InsectPortal.Json
