/-
The texts of JSON: what stands between two quotes, with its escapes. An escape
`\u` takes the next four bytes as hexadecimal digits, and two such escapes may
write one character beyond the first plane.
-/
import SchemaTypes.Json.Fault

namespace SchemaTypes.Json

def hexValue? (c : Char) : Option Nat :=
  let n := c.toNat
  if 48 ≤ n ∧ n ≤ 57 then some (n - 48)
  else if 65 ≤ n ∧ n ≤ 70 then some (n - 55)
  else if 97 ≤ n ∧ n ≤ 102 then some (n - 87)
  else none

/-- Four hexadecimal digits. Where fewer than four bytes are left, the text ends too early. -/
def fourHex (cs : List Char) : Except Fault (Nat × List Char) :=
  match cs with
  | a :: b :: c :: d :: rest =>
    match hexValue? a, hexValue? b, hexValue? c, hexValue? d with
    | some w, some x, some y, some z => .ok (((w * 16 + x) * 16 + y) * 16 + z, rest)
    | _, _, _, _ => .error .invalidEscape
  | _ =>
    if (String.ofList cs).utf8ByteSize < 4 then .error .endInText else .error .invalidEscape

def isLeading (unit : Nat) : Bool :=
  0xD800 ≤ unit && unit ≤ 0xDBFF

def isTrailing (unit : Nat) : Bool :=
  0xDC00 ≤ unit && unit ≤ 0xDFFF

/-- The character of a surrogate pair. -/
def ofPair (leading trailing : Nat) : Char :=
  Char.ofNat ((leading - 0xD800) * 0x400 + (trailing - 0xDC00) + 0x10000)

/-- The second half of a surrogate pair, which must follow at once. -/
def trailingUnit (leading : Nat) : List Char → Except Fault (Char × List Char)
  | [] => .error .endInText
  | ['\\'] => .error .endInText
  | '\\' :: 'u' :: rest => do
    let (unit, rest) ← fourHex rest
    if isTrailing unit then pure (ofPair leading unit, rest) else throw .loneSurrogate
  | _ => .error .unfinishedSurrogate

/-- The character of an escape, from after its `\u` on. -/
def codeUnits (cs : List Char) : Except Fault (Char × List Char) := do
  let (unit, rest) ← fourHex cs
  if isTrailing unit then throw .loneSurrogate
  else if isLeading unit then trailingUnit unit rest
  else pure (Char.ofNat unit, rest)

/-- The character of an escape, from after its backslash on. -/
def unescape : List Char → Except Fault (Char × List Char)
  | [] => .error .endInText
  | 'u' :: rest => codeUnits rest
  | c :: rest =>
    match c with
    | '\"' => .ok ('\"', rest)
    | '\\' => .ok ('\\', rest)
    | '/' => .ok ('/', rest)
    | 'b' => .ok ('\x08', rest)
    | 'f' => .ok ('\x0c', rest)
    | 'n' => .ok ('\n', rest)
    | 'r' => .ok ('\r', rest)
    | 't' => .ok ('\t', rest)
    | _ => .error .invalidEscape

/-! ## Every escape takes something -/

theorem length_of_fourHex {cs rest : List Char} {n : Nat} (h : fourHex cs = .ok (n, rest)) :
    rest.length < cs.length := by
  unfold fourHex at h
  split at h
  · split at h
    · cases h
      simp
      omega
    · cases h
  · split at h <;> cases h

theorem length_of_trailingUnit {leading : Nat} {cs rest : List Char} {c : Char}
    (h : trailingUnit leading cs = .ok (c, rest)) : rest.length < cs.length := by
  unfold trailingUnit at h
  split at h
  · cases h
  · cases h
  · rename_i tail
    cases hx : fourHex tail with
    | error f => simp [hx, bind, Except.bind] at h
    | ok p =>
      obtain ⟨unit, after⟩ := p
      have hlt := length_of_fourHex hx
      simp only [hx, bind, Except.bind] at h
      split at h
      · simp only [pure, Except.pure, Except.ok.injEq, Prod.mk.injEq] at h
        rw [← h.2, List.length_cons, List.length_cons]
        omega
      · cases h
  · cases h

theorem length_of_codeUnits {cs rest : List Char} {c : Char}
    (h : codeUnits cs = .ok (c, rest)) : rest.length < cs.length := by
  unfold codeUnits at h
  cases hx : fourHex cs with
  | error f => simp [hx, bind, Except.bind] at h
  | ok p =>
    obtain ⟨unit, after⟩ := p
    have hlt := length_of_fourHex hx
    simp only [hx, bind, Except.bind] at h
    split at h
    · cases h
    · split at h
      · have := length_of_trailingUnit h
        omega
      · simp only [pure, Except.pure, Except.ok.injEq, Prod.mk.injEq] at h
        rw [← h.2]
        exact hlt

theorem length_of_unescape {cs rest : List Char} {c : Char}
    (h : unescape cs = .ok (c, rest)) : rest.length < cs.length := by
  unfold unescape at h
  split at h
  · cases h
  · have := length_of_codeUnits h
    rw [List.length_cons]
    omega
  · split at h <;> cases h <;> simp

/-- A text from after its opening quote on, behind the characters read so far in reverse. -/
def readText (before : List Char) (cs : List Char) : Except Fault (String × List Char) :=
  match cs with
  | [] => .error .endInText
  | '\"' :: rest => .ok (String.ofList before.reverse, rest)
  | '\\' :: rest =>
    match h : unescape rest with
    | .error f => .error f
    | .ok (c, after) =>
      have := length_of_unescape h
      readText (c :: before) after
  | c :: rest =>
    if c.toNat < 0x20 then .error .controlCharacter else readText (c :: before) rest
termination_by cs.length

end SchemaTypes.Json
