import InsectPortal.Json.Token
import InsectPortal.Text.Blank

/-!
# JSON texts

Reading runs a machine over the tokens: it holds the containers that are still open, innermost
first, and what it expects next, so any depth of nesting is read in one pass. Writing spells the
tokens of a value one after the other. `run_write` ties the two: from any point that expects a
value, the tokens of `v` lead to the point where `v` is done.
-/
namespace InsectPortal.Json

/-- A container that is still open, with what it holds so far, last first. An open object also has
the key of the member being read. -/
inductive Frame where
  | array (before : List Json)
  | object (before : List (Literal × Json)) (key : Literal)

inductive Expect where
  | value
  | firstItem
  | firstKey
  | key (before : List (Literal × Json))
  | colon (before : List (Literal × Json)) (key : Literal)
  | done (v : Json)

structure Machine where
  expect : Expect
  frames : List Frame

namespace Machine

def start : Machine := ⟨.value, []⟩

def startValue (frames : List Frame) : Token → Option Machine
  | .null => some ⟨.done .null, frames⟩
  | .bool b => some ⟨.done (.bool b), frames⟩
  | .number n => some ⟨.done (.number n), frames⟩
  | .text t => some ⟨.done (.text t), frames⟩
  | .openArray => some ⟨.firstItem, frames⟩
  | .openObject => some ⟨.firstKey, frames⟩
  | _ => none

def close (v : Json) (frames : List Frame) : Frame → Token → Option Machine
  | .array before, .comma => some ⟨.value, .array (v :: before) :: frames⟩
  | .array before, .closeArray => some ⟨.done (.array (v :: before).reverse), frames⟩
  | .object before key, .comma => some ⟨.key ((key, v) :: before), frames⟩
  | .object before key, .closeObject => some ⟨.done (.object ((key, v) :: before).reverse), frames⟩
  | _, _ => none

def step (m : Machine) (t : Token) : Option Machine :=
  match m.expect, t with
  | .value, t => startValue m.frames t
  | .firstItem, .closeArray => some ⟨.done (.array []), m.frames⟩
  | .firstItem, t => startValue (.array [] :: m.frames) t
  | .firstKey, .closeObject => some ⟨.done (.object []), m.frames⟩
  | .firstKey, .text k => some ⟨.colon [] k, m.frames⟩
  | .key before, .text k => some ⟨.colon before k, m.frames⟩
  | .colon before k, .colon => some ⟨.value, .object before k :: m.frames⟩
  | .done v, t =>
    match m.frames with
    | [] => none
    | f :: frames => close v frames f t
  | _, _ => none

def run (m : Machine) : List Token → Option Machine
  | [] => some m
  | t :: ts =>
    match m.step t with
    | none => none
    | some m => m.run ts

def result? (m : Machine) : Option Json :=
  match m.expect, m.frames with
  | .done v, [] => some v
  | _, _ => none

end Machine

def ofTokens? (ts : List Token) : Option Json :=
  (Machine.start.run ts).bind Machine.result?

def ofChars? (cs : List Char) : Option Json :=
  (tokens? cs).bind ofTokens?

def parse? (s : String) : Option Json :=
  ofChars? s.toList

def ofBytes? (bytes : ByteArray) : Option Json :=
  (String.fromUTF8? bytes).bind parse?

mutual

def write : Json → List Token
  | .null => [.null]
  | .bool b => [.bool b]
  | .number n => [.number n]
  | .text t => [.text t]
  | .array items => .openArray :: (writeItems items ++ [.closeArray])
  | .object members => .openObject :: (writeMembers members ++ [.closeObject])

def writeItems : List Json → List Token
  | [] => []
  | [v] => v.write
  | v :: w :: rest => v.write ++ .comma :: writeItems (w :: rest)

def writeMembers : List (Literal × Json) → List Token
  | [] => []
  | [(k, v)] => .text k :: .colon :: v.write
  | (k, v) :: m :: rest => .text k :: .colon :: (v.write ++ .comma :: writeMembers (m :: rest))

end

def compact (v : Json) : String :=
  String.ofList (v.write.flatMap Token.spell)

theorem write_starts (v : Json) : ∃ t ts, v.write = t :: ts ∧ t ≠ .closeArray := by
  cases v <;> simp [write]

theorem step_firstItem (frames : List Frame) (t : Token) (h : t ≠ .closeArray) :
    Machine.step ⟨.firstItem, frames⟩ t = Machine.step ⟨.value, .array [] :: frames⟩ t := by
  cases t <;> simp_all [Machine.step, Machine.startValue]

theorem run_firstItem (frames : List Frame) (v : Json) (ts : List Token) :
    Machine.run ⟨.firstItem, frames⟩ (v.write ++ ts) =
      Machine.run ⟨.value, .array [] :: frames⟩ (v.write ++ ts) := by
  obtain ⟨t, us, h, hne⟩ := write_starts v
  simp only [h, List.cons_append, Machine.run, step_firstItem frames t hne]

mutual

theorem run_write (v : Json) (frames : List Frame) (ts : List Token) :
    Machine.run ⟨.value, frames⟩ (v.write ++ ts) = Machine.run ⟨.done v, frames⟩ ts := by
  match v with
  | .null | .bool _ | .number _ | .text _ =>
    simp [write, Machine.run, Machine.step, Machine.startValue]
  | .array [] => simp [write, writeItems, Machine.run, Machine.step, Machine.startValue]
  | .array (w :: rest) =>
    have h := run_writeItems (w :: rest) (by simp) [] frames ts
    cases rest with
    | nil =>
      simp only [writeItems, write] at h ⊢
      simp only [List.cons_append, List.append_assoc, List.nil_append, Machine.run, Machine.step,
        Machine.startValue]
      rw [run_firstItem]
      exact h
    | cons x rest =>
      simp only [writeItems, write] at h ⊢
      simp only [List.cons_append, List.append_assoc, List.nil_append, Machine.run, Machine.step,
        Machine.startValue] at h ⊢
      rw [run_firstItem]
      exact h
  | .object [] => simp [write, writeMembers, Machine.run, Machine.step, Machine.startValue]
  | .object ((k, w) :: rest) =>
    have h := run_writeMembers ((k, w) :: rest) (by simp) [] frames ts
    cases rest <;>
      simpa [writeMembers, write, Machine.run, Machine.step, Machine.startValue] using h

theorem run_writeItems (items : List Json) (h : items ≠ []) (before : List Json)
    (frames : List Frame) (ts : List Token) :
    Machine.run ⟨.value, .array before :: frames⟩ (writeItems items ++ .closeArray :: ts) =
      Machine.run ⟨.done (.array (before.reverse ++ items)), frames⟩ ts := by
  match items with
  | [] => exact absurd rfl h
  | [w] =>
    simp only [writeItems]
    rw [run_write w]
    simp [Machine.run, Machine.step, Machine.close]
  | w :: x :: rest =>
    simp only [writeItems, List.append_assoc, List.cons_append]
    rw [run_write w]
    simp only [Machine.run, Machine.step, Machine.close]
    rw [run_writeItems (x :: rest) (by simp)]
    simp

theorem run_writeMembers (members : List (Literal × Json)) (h : members ≠ [])
    (before : List (Literal × Json)) (frames : List Frame) (ts : List Token) :
    Machine.run ⟨.key before, frames⟩ (writeMembers members ++ .closeObject :: ts) =
      Machine.run ⟨.done (.object (before.reverse ++ members)), frames⟩ ts := by
  match members with
  | [] => exact absurd rfl h
  | [(k, w)] =>
    simp only [writeMembers, List.cons_append, Machine.run, Machine.step]
    rw [run_write w]
    simp [Machine.run, Machine.step, Machine.close]
  | (k, w) :: m :: rest =>
    simp only [writeMembers, List.cons_append, List.append_assoc, Machine.run, Machine.step]
    rw [run_write w]
    simp only [Machine.run, Machine.step, Machine.close]
    rw [run_writeMembers (m :: rest) (by simp)]
    simp

end

theorem ofTokens?_write (v : Json) : ofTokens? v.write = some v := by
  have h := run_write v [] []
  simp only [List.append_nil] at h
  simp [ofTokens?, Machine.start, h, Machine.run, Machine.result?]

/-- The text an answer carries: that of a JSON string, or else the trimmed answer itself. -/
def plain (body : String) : String :=
  ((parse? (Text.trim body)).bind str?).getD (Text.trim body)

end InsectPortal.Json
