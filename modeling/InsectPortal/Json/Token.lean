import InsectPortal.Json.Basic
import InsectPortal.Text.Digits

/-!
# Tokens of a JSON text

A JSON text is a sequence of tokens with gaps of four blank characters between them. `spell` writes
a token in its shortest form and `tokens?` reads a whole text: `none` where some part of it is no
token.
-/
namespace InsectPortal.Json

open Text (hexDigit hexDigit?)

inductive Token where
  | openArray
  | closeArray
  | openObject
  | closeObject
  | comma
  | colon
  | null
  | bool (b : Bool)
  | number (n : Numeral)
  | text (t : Literal)
  deriving DecidableEq, Repr

def isGap (c : Char) : Bool :=
  c == ' ' || c == '\n' || c == '\r' || c == '\t'

def decimalDigit (d : Fin 10) : Char :=
  Char.ofNat (48 + d.val)

def decimalDigit? (c : Char) : Option (Fin 10) :=
  if h : 48 ≤ c.toNat ∧ c.toNat < 58 then some ⟨c.toNat - 48, by omega⟩ else none

def digits : List Char → List (Fin 10) × List Char
  | [] => ([], [])
  | c :: rest =>
    match decimalDigit? c with
    | some d => let (ds, after) := digits rest; (d :: ds, after)
    | none => ([], c :: rest)

def ofDigits (ds : List (Fin 10)) : Nat :=
  ds.foldl (fun n d => n * 10 + d.val) 0

/-- A part of a literal: a character, or a UTF-16 code unit given by its number. -/
inductive Glyph where
  | char (c : Char)
  | unit (u : Nat)
  deriving DecidableEq, Repr

def shortEscape? : Char → Option Char
  | '"' => some '"'
  | '\\' => some '\\'
  | '/' => some '/'
  | 'b' => some '\x08'
  | 'f' => some '\x0c'
  | 'n' => some '\n'
  | 'r' => some '\r'
  | 't' => some '\t'
  | _ => none

/-- The parts of a literal after its opening quote, and what follows the closing one. -/
def glyphs? : List Char → Option (List Glyph × List Char)
  | [] => none
  | '"' :: rest => some ([], rest)
  | '\\' :: 'u' :: a :: b :: c :: d :: rest => do
    let u := (← hexDigit? a) * 4096 + (← hexDigit? b) * 256 + (← hexDigit? c) * 16 + (← hexDigit? d)
    let (gs, after) ← glyphs? rest
    some (.unit u :: gs, after)
  | '\\' :: e :: rest => do
    let c ← shortEscape? e
    let (gs, after) ← glyphs? rest
    some (.char c :: gs, after)
  | c :: rest =>
    if c.toNat < 0x20 then none
    else do
      let (gs, after) ← glyphs? rest
      some (.char c :: gs, after)

def isHighSurrogate (u : Nat) : Bool := 0xD800 ≤ u && u < 0xDC00

def isLowSurrogate (u : Nat) : Bool := 0xDC00 ≤ u && u < 0xE000

/-- The text of the parts: a high surrogate counts only with the low one right after it. -/
def joinGlyphs : List Glyph → Option (List Char)
  | [] => some []
  | .char c :: rest => (joinGlyphs rest).map (c :: ·)
  | .unit u :: .unit v :: rest =>
    if isHighSurrogate u then
      if isLowSurrogate v then
        (joinGlyphs rest).map (Char.ofNat (0x10000 + (u - 0xD800) * 1024 + (v - 0xDC00)) :: ·)
      else none
    else if isLowSurrogate u then none
    else (joinGlyphs (.unit v :: rest)).map (Char.ofNat u :: ·)
  | .unit u :: rest =>
    if isHighSurrogate u || isLowSurrogate u then none
    else (joinGlyphs rest).map (Char.ofNat u :: ·)

/-- One character inside a literal. Only the quote, the backslash and the control characters below
U+0020 are escaped. -/
def escape (c : Char) : List Char :=
  match c with
  | '"' => ['\\', '"']
  | '\\' => ['\\', '\\']
  | '\x08' => ['\\', 'b']
  | '\x0c' => ['\\', 'f']
  | '\n' => ['\\', 'n']
  | '\r' => ['\\', 'r']
  | '\t' => ['\\', 't']
  | c =>
    if c.toNat < 0x20 then
      ['\\', 'u', '0', '0', hexDigit (c.toNat / 16), hexDigit (c.toNat % 16)]
    else [c]

def quote (s : List Char) : List Char :=
  '"' :: (s.flatMap escape ++ ['"'])

/-- The whole part of a number: a zero stands alone. -/
def wholePart? : List Char → Option (Nat × List Char)
  | '0' :: rest => some (0, rest)
  | cs =>
    match digits cs with
    | ([], _) => none
    | (ds, after) => some (ofDigits ds, after)

def fractionPart? : List Char → Option (List (Fin 10) × List Char)
  | '.' :: rest =>
    match digits rest with
    | ([], _) => none
    | found => some found
  | cs => some ([], cs)

def exponentDigits? (negative : Bool) (cs : List Char) : Option (Option Int × List Char) :=
  match digits cs with
  | ([], _) => none
  | (ds, after) =>
    let n : Int := ofDigits ds
    some (some (if negative then -n else n), after)

def exponentPart? : List Char → Option (Option Int × List Char)
  | [] => some (none, [])
  | c :: rest =>
    if c == 'e' || c == 'E' then
      match rest with
      | '+' :: rest => exponentDigits? false rest
      | '-' :: rest => exponentDigits? true rest
      | _ => exponentDigits? false rest
    else some (none, c :: rest)

def numeral? (negative : Bool) (cs : List Char) : Option (Numeral × List Char) := do
  let (whole, cs) ← wholePart? cs
  let (fraction, cs) ← fractionPart? cs
  let (exponent, cs) ← exponentPart? cs
  some (⟨negative, whole, fraction, exponent⟩, cs)

def spellNumeral (n : Numeral) : List Char :=
  (if n.negative then ['-'] else []) ++ (toString n.whole).toList ++
    (if n.fraction.isEmpty then [] else '.' :: n.fraction.map decimalDigit) ++
    (match n.exponent with
      | none => []
      | some e => 'e' :: (toString e).toList)

def token? (c : Char) (rest : List Char) : Option (Token × List Char) :=
  match c, rest with
  | '[', rest => some (.openArray, rest)
  | ']', rest => some (.closeArray, rest)
  | '\x7b', rest => some (.openObject, rest)
  | '\x7d', rest => some (.closeObject, rest)
  | ',', rest => some (.comma, rest)
  | ':', rest => some (.colon, rest)
  | 'n', 'u' :: 'l' :: 'l' :: rest => some (.null, rest)
  | 't', 'r' :: 'u' :: 'e' :: rest => some (.bool true, rest)
  | 'f', 'a' :: 'l' :: 's' :: 'e' :: rest => some (.bool false, rest)
  | '"', rest => (glyphs? rest).map fun (gs, after) =>
      (.text ((joinGlyphs gs).map String.ofList), after)
  | '-', rest => (numeral? true rest).map fun (n, after) => (.number n, after)
  | c, rest => (numeral? false (c :: rest)).map fun (n, after) => (.number n, after)

/-- The shortest spelling of a token. An unpaired surrogate stands for every literal without a
text. -/
def Token.spell : Token → List Char
  | .openArray => ['[']
  | .closeArray => [']']
  | .openObject => ['\x7b']
  | .closeObject => ['\x7d']
  | .comma => [',']
  | .colon => [':']
  | .null => ['n', 'u', 'l', 'l']
  | .bool true => ['t', 'r', 'u', 'e']
  | .bool false => ['f', 'a', 'l', 's', 'e']
  | .number n => spellNumeral n
  | .text (some s) => quote s.toList
  | .text none => ['"', '\\', 'u', 'd', '8', '0', '0', '"']

theorem digits_length (cs : List Char) : (digits cs).2.length ≤ cs.length := by
  induction cs with
  | nil => simp [digits]
  | cons c rest ih =>
    unfold digits
    cases decimalDigit? c with
    | none => simp
    | some d => simp only [List.length_cons]; omega

theorem glyphs?_length {cs after : List Char} {gs : List Glyph}
    (h : glyphs? cs = some (gs, after)) : after.length < cs.length := by
  fun_induction glyphs? cs generalizing gs with
  | case1 => simp at h
  | case2 rest => simp_all
  | case3 a b c d rest ih =>
    simp only [bind, Option.bind_eq_some_iff, Option.some.injEq, Prod.mk.injEq] at h
    obtain ⟨_, _, _, _, _, _, _, _, ⟨gs', after'⟩, h, _, rfl⟩ := h
    have := ih h
    simp only [List.length_cons] at this ⊢
    omega
  | case4 e rest hne ih =>
    simp only [bind, Option.bind_eq_some_iff, Option.some.injEq, Prod.mk.injEq] at h
    obtain ⟨_, _, ⟨gs', after'⟩, h, _, rfl⟩ := h
    have := ih h
    simp only [List.length_cons] at this ⊢
    omega
  | case5 c rest => simp_all
  | case6 c rest h1 h2 h3 h4 ih =>
    simp only [bind, Option.bind_eq_some_iff, Option.some.injEq, Prod.mk.injEq] at h
    obtain ⟨⟨gs', after'⟩, h, _, rfl⟩ := h
    have := ih h
    simp only [List.length_cons] at this ⊢
    omega

theorem wholePart?_length {cs after : List Char} {n : Nat}
    (h : wholePart? cs = some (n, after)) : after.length < cs.length := by
  unfold wholePart? at h
  split at h
  · simp_all
  · split at h
    · simp at h
    · next hne hd =>
      simp only [Option.some.injEq, Prod.mk.injEq] at h
      obtain ⟨_, rfl⟩ := h
      cases cs with
      | nil => simp_all [digits]
      | cons c rest =>
        unfold digits at hd
        cases hc : decimalDigit? c with
        | none => simp_all
        | some d =>
          simp only [hc, Prod.mk.injEq] at hd
          have := digits_length rest
          rw [← hd.2]
          simp only [List.length_cons]
          omega

theorem fractionPart?_length {cs after : List Char} {ds : List (Fin 10)}
    (h : fractionPart? cs = some (ds, after)) : after.length ≤ cs.length := by
  unfold fractionPart? at h
  split at h
  · next rest =>
    split at h
    · simp at h
    · have := digits_length rest
      simp_all; omega
  · simp_all

theorem exponentDigits?_length {b : Bool} {cs after : List Char} {e : Option Int}
    (h : exponentDigits? b cs = some (e, after)) : after.length ≤ cs.length := by
  unfold exponentDigits? at h
  have := digits_length cs
  split at h <;> simp_all

theorem exponentPart?_length {cs after : List Char} {e : Option Int}
    (h : exponentPart? cs = some (e, after)) : after.length ≤ cs.length := by
  unfold exponentPart? at h
  split at h
  · simp_all
  · next c rest =>
    split at h
    · split at h <;> have := exponentDigits?_length h <;> simp_all <;> omega
    · simp_all

theorem numeral?_length {b : Bool} {cs after : List Char} {n : Numeral}
    (h : numeral? b cs = some (n, after)) : after.length < cs.length := by
  simp only [numeral?, bind, Option.bind_eq_some_iff, Option.some.injEq, Prod.mk.injEq] at h
  obtain ⟨⟨_, c₁⟩, h₁, ⟨_, c₂⟩, h₂, ⟨_, c₃⟩, h₃, _, rfl⟩ := h
  have := wholePart?_length h₁
  have := fractionPart?_length h₂
  have := exponentPart?_length h₃
  simp_all; omega

theorem token?_length {c : Char} {rest after : List Char} {t : Token}
    (h : token? c rest = some (t, after)) : after.length ≤ rest.length := by
  unfold token? at h
  split at h <;>
    simp only [Option.some.injEq, Option.map_eq_some_iff, Prod.mk.injEq, Prod.exists,
      List.length_cons] at h ⊢
  case h_10 =>
    obtain ⟨gs, _, h, _, rfl⟩ := h
    exact Nat.le_of_lt (glyphs?_length h)
  case h_11 =>
    obtain ⟨n, _, h, _, rfl⟩ := h
    exact Nat.le_of_lt (numeral?_length h)
  case h_12 =>
    obtain ⟨n, _, h, _, rfl⟩ := h
    exact Nat.le_of_lt_succ (numeral?_length h)
  all_goals
    obtain ⟨_, rfl⟩ := h
    omega

def tokens? : List Char → Option (List Token)
  | [] => some []
  | c :: rest =>
    if isGap c then tokens? rest
    else
      match h : token? c rest with
      | none => none
      | some (t, after) =>
        have := token?_length h
        (tokens? after).map (t :: ·)
termination_by cs => cs.length
decreasing_by all_goals simp only [List.length_cons]; omega

end InsectPortal.Json
