import SensorHost.Lib.Bytes

/-!
# Text

Text as lists of characters, with the pieces of the Python standard library that the host's text
protocols rest on: UTF-8 and ASCII decoding, Unicode white space and decimal digits, `str.strip`,
`str.split`, `str.splitlines`, `repr`, and the integer constructor `int(text, base)`.

Where Python's own behaviour depends on tables of Unicode, the tables are those of the version that
is named beside them, cut down to what can make a difference here: upper case, for one, is kept for
the characters whose upper case has ASCII letters in it.

`int` has its own notion of white space, which is not that of `str.strip`: it first turns the digits
and the spaces past ASCII into ASCII, and then skips what C calls space.
-/

namespace SensorHost.Lib

/-- A string, as its characters. -/
abbrev Text := List Char

/-- What holds of every character of a text is decided on its characters only. -/
instance decidableBAllText (text : Text) (p : Char → Prop) [DecidablePred p] :
    Decidable (∀ c ∈ text, p c) := List.decidableBAll p text

/-- Texts are compared by their characters. -/
lemma lawfulBEq_text : LawfulBEq Text := inferInstance

/-- U+FFFD, which stands for every maximal invalid part of a byte string. -/
def replacementChar : Char := Char.ofNat 0xFFFD

/-- The number of continuation bytes a lead byte announces, with the bounds of the first one. -/
def utf8Lead (b : UInt8) : Option (Nat × UInt8 × UInt8) :=
  if b < 0xC2 then none
  else if b ≤ 0xDF then some (1, 0x80, 0xBF)
  else if b = 0xE0 then some (2, 0xA0, 0xBF)
  else if b = 0xED then some (2, 0x80, 0x9F)
  else if b ≤ 0xEF then some (2, 0x80, 0xBF)
  else if b = 0xF0 then some (3, 0x90, 0xBF)
  else if b ≤ 0xF3 then some (3, 0x80, 0xBF)
  else if b = 0xF4 then some (3, 0x80, 0x8F)
  else none

/-- A continuation byte. -/
def isContinuation (b : UInt8) : Bool := 0x80 ≤ b && b ≤ 0xBF

/-- The payload bits of a continuation byte. -/
def continuationBits (b : UInt8) : Nat := b.toNat % 0x40

/-- `bytes.decode("utf-8", errors="replace")`. -/
def decodeUtf8Replace : Bytes → Text
  | [] => []
  | b0 :: t0 =>
    if b0 < 0x80 then Char.ofNat b0.toNat :: decodeUtf8Replace t0
    else
      match utf8Lead b0 with
      | none => replacementChar :: decodeUtf8Replace t0
      | some (n, lo, hi) =>
        match t0 with
        | [] => [replacementChar]
        | b1 :: t1 =>
          -- a bad second byte ends the invalid part right after the lead byte
          if b1 < lo ∨ hi < b1 then replacementChar :: decodeUtf8Replace (b1 :: t1)
          else if n = 1 then
            Char.ofNat (b0.toNat % 0x20 * 0x40 + continuationBits b1) :: decodeUtf8Replace t1
          else
            match t1 with
            | [] => [replacementChar]
            | b2 :: t2 =>
              if !isContinuation b2 then replacementChar :: decodeUtf8Replace (b2 :: t2)
              else if n = 2 then
                Char.ofNat (b0.toNat % 0x10 * 0x1000 + continuationBits b1 * 0x40 +
                  continuationBits b2) :: decodeUtf8Replace t2
              else
                match t2 with
                | [] => [replacementChar]
                | b3 :: t3 =>
                  if !isContinuation b3 then replacementChar :: decodeUtf8Replace (b3 :: t3)
                  else
                    Char.ofNat (b0.toNat % 0x08 * 0x40000 + continuationBits b1 * 0x1000 +
                      continuationBits b2 * 0x40 + continuationBits b3) :: decodeUtf8Replace t3

/-- `bytes.decode("ascii")`, which fails on a byte past 0x7F. -/
def decodeAscii (bs : Bytes) : Option Text :=
  if bs.all (· < 0x80) then some (bs.map fun b => Char.ofNat b.toNat) else none

/-- `bytes.decode("ascii", errors="replace")`. -/
def decodeAsciiReplace (bs : Bytes) : Text :=
  bs.map fun b => if b < 0x80 then Char.ofNat b.toNat else replacementChar

/-- `str.encode("ascii")`, which fails on a character past 0x7F. -/
def encodeAscii (text : Text) : Option Bytes :=
  if text.all (·.toNat < 0x80) then some (text.map fun c => UInt8.ofNat c.toNat) else none

/-- Unicode whitespace, as `str.isspace` sees it. -/
def isSpaceChar (c : Char) : Bool :=
  let n := c.toNat
  (0x09 ≤ n && n ≤ 0x0D) || (0x1C ≤ n && n ≤ 0x20) || n == 0x85 || n == 0xA0 || n == 0x1680 ||
    (0x2000 ≤ n && n ≤ 0x200A) || n == 0x2028 || n == 0x2029 || n == 0x202F || n == 0x205F ||
    n == 0x3000

/-- The code points of the Unicode decimal zeros; each is followed by its nine other digits. These
are those of Unicode 15, which Python has from 3.12 on; Python 3.11, with Unicode 14, lacks the two
zeros U+11F50 and U+1E4F0. -/
def decimalZeros : List Nat :=
  [0x0030, 0x0660, 0x06F0, 0x07C0, 0x0966, 0x09E6, 0x0A66, 0x0AE6, 0x0B66, 0x0BE6, 0x0C66, 0x0CE6,
    0x0D66, 0x0DE6, 0x0E50, 0x0ED0, 0x0F20, 0x1040, 0x1090, 0x17E0, 0x1810, 0x1946, 0x19D0, 0x1A80,
    0x1A90, 0x1B50, 0x1BB0, 0x1C40, 0x1C50, 0xA620, 0xA8D0, 0xA900, 0xA9D0, 0xA9F0, 0xAA50, 0xABF0,
    0xFF10, 0x104A0, 0x10D30, 0x11066, 0x110F0, 0x11136, 0x111D0, 0x112F0, 0x11450, 0x114D0,
    0x11650, 0x116C0, 0x11730, 0x118E0, 0x11950, 0x11C50, 0x11D50, 0x11DA0, 0x11F50, 0x16A60,
    0x16AC0, 0x16B50, 0x1D7CE, 0x1D7D8, 0x1D7E2, 0x1D7EC, 0x1D7F6, 0x1E140, 0x1E2F0, 0x1E4F0,
    0x1E950, 0x1FBF0]

/-- The value of a Unicode decimal digit. -/
def decimalValue (c : Char) : Option Nat :=
  (decimalZeros.find? fun z => z ≤ c.toNat && c.toNat ≤ z + 9).map (c.toNat - ·)

/-- `str.isdecimal()`. -/
def isDecimal (text : Text) : Bool := !text.isEmpty && text.all fun c => (decimalValue c).isSome

/-- The characters past ASCII whose upper case has ASCII letters in it, with that upper case. -/
def upperExpansions : List (Nat × List Nat) :=
  [(0xDF, [0x53, 0x53]), (0x131, [0x49]), (0x149, [0x2BC, 0x4E]), (0x17F, [0x53]),
    (0x1F0, [0x4A, 0x30C]), (0x1E96, [0x48, 0x331]), (0x1E97, [0x54, 0x308]),
    (0x1E98, [0x57, 0x30A]), (0x1E99, [0x59, 0x30A]), (0x1E9A, [0x41, 0x2BE]),
    (0xFB00, [0x46, 0x46]), (0xFB01, [0x46, 0x49]), (0xFB02, [0x46, 0x4C]),
    (0xFB03, [0x46, 0x46, 0x49]), (0xFB04, [0x46, 0x46, 0x4C]), (0xFB05, [0x53, 0x54]),
    (0xFB06, [0x53, 0x54])]

/-- The upper case of a character. A character whose upper case has no ASCII in it is kept: the
host only compares the result with ASCII keywords, where both are equally different. -/
def upperChar (c : Char) : Text :=
  if 'a' ≤ c ∧ c ≤ 'z' then [Char.ofNat (c.toNat - 0x20)]
  else
    match upperExpansions.lookup c.toNat with
    | some cs => cs.map Char.ofNat
    | none => [c]

/-- `str.upper()`, up to characters past ASCII. -/
def upper (text : Text) : Text := text.flatMap upperChar

/-- `str.strip()`. -/
def strip (text : Text) : Text := stripBy isSpaceChar text

/-- `str.startswith`. -/
def startsWith (text p : Text) : Bool := p.isPrefixOf text

/-- `str.removeprefix`. -/
def removePrefix (text p : Text) : Text := if startsWith text p then text.drop p.length else text

/-- A text starts with its first part. -/
lemma startsWith_append (p rest : Text) : startsWith (p ++ rest) p = true := by
  simp [startsWith, List.prefix_append]

/-- Removing the first part leaves the second. -/
lemma removePrefix_append (p rest : Text) : removePrefix (p ++ rest) p = rest := by
  rw [removePrefix, if_pos (startsWith_append p rest), List.drop_left]

/-- The text without the occurrences of `p`; `skip` characters of the last one are still to go. -/
def removeAllAux (p : Text) : Nat → Text → Text
  | _, [] => []
  | skip + 1, _ :: cs => removeAllAux p skip cs
  | 0, c :: cs =>
    if startsWith (c :: cs) p then removeAllAux p (p.length - 1) cs else c :: removeAllAux p 0 cs

/-- `str.replace(p, "")` for a nonempty `p`. -/
def removeAll (text p : Text) : Text := removeAllAux p 0 text

/-- `str.split(sep)` for a one-character separator: never empty. -/
def splitOn (sep : Char) : Text → List Text
  | [] => [[]]
  | c :: cs =>
    if c = sep then [] :: splitOn sep cs
    else
      match splitOn sep cs with
      | [] => [[c]]
      | part :: parts => (c :: part) :: parts

/-- `str.split(sep, 1)` where the separator occurs: what is before it and what is after. -/
def splitOnce (sep : Char) : Text → Option (Text × Text)
  | [] => none
  | c :: cs => if c = sep then some ([], cs) else (splitOnce sep cs).map fun p => (c :: p.1, p.2)

/-- The characters at which `str.splitlines` breaks; CR LF is one break. -/
def isLineBreak (c : Char) : Bool :=
  let n := c.toNat
  (0x0A ≤ n && n ≤ 0x0D) || (0x1C ≤ n && n ≤ 0x1E) || n == 0x85 || n == 0x2028 || n == 0x2029

/-- `str.splitlines()`, with the characters of the line under way. -/
def splitLinesAux (line : Text) : Text → List Text
  | [] => if line.isEmpty then [] else [line.reverse]
  | c :: cs =>
    if c = '\r' then
      match cs with
      | '\n' :: rest => line.reverse :: splitLinesAux [] rest
      | rest => line.reverse :: splitLinesAux [] rest
    else if isLineBreak c then line.reverse :: splitLinesAux [] cs
    else splitLinesAux (c :: line) cs

/-- `str.splitlines()`. -/
def splitLines (text : Text) : List Text := splitLinesAux [] text

/-- A character between single or double quotes, as `repr` writes it. -/
def reprChar (quote c : Char) : Text :=
  if c = quote ∨ c = '\\' then ['\\', c]
  else if c = '\t' then ['\\', 't']
  else if c = '\n' then ['\\', 'n']
  else if c = '\r' then ['\\', 'r']
  else if c < ' ' ∨ c = Char.ofNat 0x7F then
    ['\\', 'x', Nat.digitChar (c.toNat / 16), Nat.digitChar (c.toNat % 16)]
  else [c]

/-- `repr(text)` for a text of ASCII and replacement characters. -/
def reprText (text : Text) : Text :=
  let quote := if '\'' ∈ text ∧ '"' ∉ text then '"' else '\''
  quote :: text.flatMap (reprChar quote) ++ [quote]

/-- The digits of a numeral, most significant first, for any base up to 36. -/
def digitValue (c : Char) : Option Nat :=
  if '0' ≤ c ∧ c ≤ '9' then some (c.toNat - '0'.toNat)
  else if 'a' ≤ c ∧ c ≤ 'z' then some (c.toNat - 'a'.toNat + 10)
  else if 'A' ≤ c ∧ c ≤ 'Z' then some (c.toNat - 'A'.toNat + 10)
  else none

/-- A run of digits of `base` with single underscores between them, read from the value `acc`. -/
def readDigits (base : Nat) (acc : Nat) (afterUnderscore : Bool) : Text → Option Nat
  | [] => if afterUnderscore then none else some acc
  | '_' :: cs => if afterUnderscore then none else readDigits base acc true cs
  | c :: cs =>
    match digitValue c with
    | some d => if d < base then readDigits base (acc * base + d) false cs else none
    | none => none

/-- The number of digits past which `int` refuses a decimal numeral, and `str` an integer. -/
def maxStrDigits : Nat := 4300

/-- A nonempty numeral of `base` that does not start with an underscore. -/
def readNumeral (base : Nat) (cs : Text) : Option Nat :=
  match cs with
  | [] => none
  | '_' :: _ => none
  | _ =>
    if base = 10 ∧ (cs.filter (· ≠ '_')).length > maxStrDigits then none
    else readDigits base 0 false cs

/-- A numeral after its base prefix, where one underscore is allowed first. -/
def readPrefixed (base : Nat) : Text → Option Nat
  | '_' :: cs => readNumeral base cs
  | cs => readNumeral base cs

/-- The unsigned part of `int(text, base)`; base 0 reads the base from the text. -/
def readUnsigned (base : Nat) (cs : Text) : Option Nat :=
  match cs with
  | '0' :: x :: rest =>
    if (base = 0 ∨ base = 16) ∧ (x = 'x' ∨ x = 'X') then readPrefixed 16 rest
    else if (base = 0 ∨ base = 8) ∧ (x = 'o' ∨ x = 'O') then readPrefixed 8 rest
    else if (base = 0 ∨ base = 2) ∧ (x = 'b' ∨ x = 'B') then readPrefixed 2 rest
    else if base = 0 then
      -- a decimal numeral with a leading zero is accepted only when it is zero
      match readNumeral 10 cs with
      | some 0 => some 0
      | _ => none
    else readNumeral base cs
  | _ => readNumeral (if base = 0 then 10 else base) cs

/-- The character `int` reads in place of `c`: past ASCII, Unicode spaces and digits become ASCII and
all else a character that is in no numeral; ASCII stays as it is. -/
def asciiDigitOrSpace (c : Char) : Char :=
  if c.toNat < 0x7F then c
  else if isSpaceChar c then ' '
  else
    match decimalValue c with
    | some d => Char.ofNat ('0'.toNat + d)
    | none => '?'

/-- The white space that `int` skips around a numeral, which is that of C: U+001C to U+001F, which
`str.isspace` also has, are not in it. -/
def isAsciiSpace (c : Char) : Bool := (0x09 ≤ c.toNat && c.toNat ≤ 0x0D) || c.toNat == 0x20

/-- `int(text, base)`; `none` is its `ValueError`. -/
def parseInt (base : Nat) (text : Text) : Option Int :=
  match stripBy isAsciiSpace (text.map asciiDigitOrSpace) with
  | '-' :: cs => (readUnsigned base cs).map fun n => -(n : Int)
  | '+' :: cs => (readUnsigned base cs).map fun n => (n : Int)
  | cs => (readUnsigned base cs).map fun n => (n : Int)

end SensorHost.Lib
