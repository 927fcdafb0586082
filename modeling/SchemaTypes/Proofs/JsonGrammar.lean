/-
The grammar of JSON texts, and what a text denotes.

A text denotes a tree: white space between the parts is gone, and of a text
between quotes its characters are left and not how they were written. A number
stays as it is written. The members of an object are listed in their order,
repeated keys included.

`Spells cs p rest` says that the characters `cs` begin with a phrase and go on
with `rest`. What is spelled may be a value, a value with white space around
it, the items of a list or the members of an object, so that one relation has
all rules of the grammar.
-/
import SchemaTypes.Json.Reading

namespace SchemaTypes.Json

/-- What a JSON text denotes. -/
inductive Tree where
  | null
  | bool (b : Bool)
  /-- A number with the characters by which it is written. -/
  | number (lexeme : List Char)
  | text (s : String)
  | list (items : List Tree)
  | object (members : List (String × Tree))

/-! ## Numbers -/

/-- One or more digits. -/
def IsDigits (cs : List Char) : Prop :=
  cs ≠ [] ∧ ∀ c ∈ cs, c.isDigit

/-- The whole part of a number, which begins with a zero only if it is one. -/
inductive IsWhole : List Char → Prop
  | zero : IsWhole ['0']
  | digits {c : Char} {cs : List Char} (hc : c.isDigit) (hzero : c ≠ '0')
    (hcs : ∀ d ∈ cs, d.isDigit) : IsWhole (c :: cs)

inductive IsFraction : List Char → Prop
  | none : IsFraction []
  | some {ds : List Char} (hds : IsDigits ds) : IsFraction ('.' :: ds)

inductive IsExponent : List Char → Prop
  | none : IsExponent []
  | plain {mark : Char} {ds : List Char} (hmark : mark = 'e' ∨ mark = 'E') (hds : IsDigits ds) :
    IsExponent (mark :: ds)
  | signed {mark sign : Char} {ds : List Char} (hmark : mark = 'e' ∨ mark = 'E')
    (hsign : sign = '+' ∨ sign = '-') (hds : IsDigits ds) : IsExponent (mark :: sign :: ds)

/-- A number without a sign. -/
inductive IsMagnitude : List Char → Prop
  | of {whole fraction exponent : List Char} (hwhole : IsWhole whole)
    (hfraction : IsFraction fraction) (hexponent : IsExponent exponent) :
    IsMagnitude (whole ++ (fraction ++ exponent))

inductive IsNumber : List Char → Prop
  | positive {cs : List Char} (h : IsMagnitude cs) : IsNumber cs
  | negative {cs : List Char} (h : IsMagnitude cs) : IsNumber ('-' :: cs)

/-! ## Texts -/

/-- The characters that have an escape of one letter, behind that letter. -/
def shortEscapes : List (Char × Char) :=
  [('\"', '\"'), ('\\', '\\'), ('/', '/'), ('b', '\x08'), ('f', '\x0c'), ('n', '\n'), ('r', '\r'),
   ('t', '\t')]

/-- Four hexadecimal digits and their number. -/
inductive IsUnit : List Char → Nat → Prop
  | of {a b c d : Char} {w x y z : Nat} (ha : hexValue? a = some w) (hb : hexValue? b = some x)
    (hc : hexValue? c = some y) (hd : hexValue? d = some z) :
    IsUnit [a, b, c, d] (((w * 16 + x) * 16 + y) * 16 + z)

/-- The characters of a text as they are written from after its opening quote on, up to its
closing one, and what follows that. -/
inductive SpellsText : List Char → List Char → List Char → Prop
  | close (rest : List Char) : SpellsText ('\"' :: rest) [] rest
  | plain {c : Char} {cs s rest : List Char} (hquote : c ≠ '\"') (hescape : c ≠ '\\')
    (hcontrol : 0x20 ≤ c.toNat) (more : SpellsText cs s rest) :
    SpellsText (c :: cs) (c :: s) rest
  | escape {letter c : Char} {cs s rest : List Char} (h : (letter, c) ∈ shortEscapes)
    (more : SpellsText cs s rest) : SpellsText ('\\' :: letter :: cs) (c :: s) rest
  | unit {digits cs s rest : List Char} {n : Nat} (h : IsUnit digits n)
    (hleading : isLeading n = false) (htrailing : isTrailing n = false)
    (more : SpellsText cs s rest) :
    SpellsText ('\\' :: 'u' :: (digits ++ cs)) (Char.ofNat n :: s) rest
  | pair {digits digits' cs s rest : List Char} {n n' : Nat} (h : IsUnit digits n)
    (hleading : isLeading n) (h' : IsUnit digits' n') (htrailing : isTrailing n')
    (more : SpellsText cs s rest) :
    SpellsText ('\\' :: 'u' :: (digits ++ '\\' :: 'u' :: (digits' ++ cs))) (ofPair n n' :: s) rest

/-! ## Documents -/

/-- White space between the parts of a text. -/
def Blank (gap : List Char) : Prop :=
  ∀ c ∈ gap, Reading.isBlank c

/-- A part of a text. -/
inductive Phrase where
  | value (t : Tree)
  /-- A value with white space before and after it. -/
  | padded (t : Tree)
  /-- The items of a list that is not empty. -/
  | items (ts : List Tree)
  /-- The members of an object that is not empty. -/
  | members (ms : List (String × Tree))

inductive Spells : List Char → Phrase → List Char → Prop
  | null (rest : List Char) : Spells ('n' :: 'u' :: 'l' :: 'l' :: rest) (.value .null) rest
  | yes (rest : List Char) :
    Spells ('t' :: 'r' :: 'u' :: 'e' :: rest) (.value (.bool true)) rest
  | no (rest : List Char) :
    Spells ('f' :: 'a' :: 'l' :: 's' :: 'e' :: rest) (.value (.bool false)) rest
  | number {lexeme : List Char} (h : IsNumber lexeme) (rest : List Char) :
    Spells (lexeme ++ rest) (.value (.number lexeme)) rest
  | text {cs s rest : List Char} (h : SpellsText cs s rest) :
    Spells ('\"' :: cs) (.value (.text (String.ofList s))) rest
  | emptyList {gap : List Char} (hgap : Blank gap) (rest : List Char) :
    Spells ('[' :: (gap ++ ']' :: rest)) (.value (.list [])) rest
  | list {cs rest : List Char} {ts : List Tree} (h : Spells cs (.items ts) (']' :: rest)) :
    Spells ('[' :: cs) (.value (.list ts)) rest
  | emptyObject {gap : List Char} (hgap : Blank gap) (rest : List Char) :
    Spells ('\x7b' :: (gap ++ '\x7d' :: rest)) (.value (.object [])) rest
  | object {cs rest : List Char} {ms : List (String × Tree)}
    (h : Spells cs (.members ms) ('\x7d' :: rest)) :
    Spells ('\x7b' :: cs) (.value (.object ms)) rest
  | padded {gap gap' cs rest : List Char} {t : Tree} (hgap : Blank gap) (hgap' : Blank gap')
    (h : Spells cs (.value t) (gap' ++ rest)) : Spells (gap ++ cs) (.padded t) rest
  | lastItem {cs rest : List Char} {t : Tree} (h : Spells cs (.padded t) rest) :
    Spells cs (.items [t]) rest
  | item {cs more rest : List Char} {t : Tree} {ts : List Tree}
    (h : Spells cs (.padded t) (',' :: more)) (hmore : Spells more (.items ts) rest) :
    Spells cs (.items (t :: ts)) rest
  | lastMember {gap gap' cs k after rest : List Char} {t : Tree} (hgap : Blank gap)
    (hkey : SpellsText cs k (gap' ++ ':' :: after)) (hgap' : Blank gap')
    (h : Spells after (.padded t) rest) :
    Spells (gap ++ '\"' :: cs) (.members [(String.ofList k, t)]) rest
  | member {gap gap' cs k after more rest : List Char} {t : Tree} {ms : List (String × Tree)}
    (hgap : Blank gap) (hkey : SpellsText cs k (gap' ++ ':' :: after)) (hgap' : Blank gap')
    (h : Spells after (.padded t) (',' :: more)) (hmore : Spells more (.members ms) rest) :
    Spells (gap ++ '\"' :: cs) (.members ((String.ofList k, t) :: ms)) rest

/-- A text denotes a tree. -/
def Denotes (text : String) (t : Tree) : Prop :=
  Spells text.toList (.padded t) []

/-- Characters that need no escape are spelled by themselves. -/
theorem SpellsText.of_plain {s : List Char}
    (hs : s.all fun c => c ≠ '\"' ∧ c ≠ '\\' ∧ 0x20 ≤ c.toNat) (rest : List Char) :
    SpellsText (s ++ '\"' :: rest) s rest := by
  induction s with
  | nil => exact .close rest
  | cons c s ih =>
    rw [List.all_cons, Bool.and_eq_true, decide_eq_true_eq] at hs
    obtain ⟨⟨hquote, hescape, hcontrol⟩, hs⟩ := hs
    exact .plain hquote hescape hcontrol (ih hs)

/-- White space around a value may be missing. -/
theorem Spells.bare {cs rest : List Char} {t : Tree} (h : Spells cs (.value t) rest) :
    Spells cs (.padded t) rest :=
  @Spells.padded [] [] _ _ _ nofun nofun h

end SchemaTypes.Json
