import Chargen.Json

/-!
# Reading JSON text

`Json.parse` reads a whole text as one value, with nothing but gaps around it. A string is read as
code units first, raw characters and escapes alike; `joinSurrogates` then pairs the halves of the
characters that an escape cannot name at once.
-/

namespace Chargen.Json

/-- The characters between tokens. -/
def isGap (c : Char) : Bool :=
  c == ' ' || c == '\t' || c == '\n' || c == '\r'

/-- The text from the next token on. -/
def skipGaps (cs : List Char) : List Char :=
  cs.dropWhile isGap

/-- The value of a hexadecimal digit. -/
def hexDigit? (c : Char) : Option Nat :=
  if '0' ≤ c && c ≤ '9' then some (c.toNat - '0'.toNat)
  else if 'a' ≤ c && c ≤ 'f' then some (c.toNat - 'a'.toNat + 10)
  else if 'A' ≤ c && c ≤ 'F' then some (c.toNat - 'A'.toNat + 10)
  else none

/-- The code unit of four hexadecimal digits. -/
def codeUnit? (a b c d : Char) : Option Nat := do
  return ((← hexDigit? a) * 16 + (← hexDigit? b)) * 256 + (← hexDigit? c) * 16 + (← hexDigit? d)

/-- The code that a letter after a backslash stands for. -/
def escapeCode? : Char → Option Nat
  | '"' => some 0x22
  | '\\' => some 0x5C
  | '/' => some 0x2F
  | 'b' => some 0x08
  | 'f' => some 0x0C
  | 'n' => some 0x0A
  | 'r' => some 0x0D
  | 't' => some 0x09
  | _ => none

/-- The codes of a string up to its closing quote, and the text after it. -/
def stringCodes : List Char → Option (List Nat × List Char)
  | [] => none
  | '"' :: rest => some ([], rest)
  | '\\' :: 'u' :: a :: b :: c :: d :: rest => do
    let code ← codeUnit? a b c d
    let (codes, after) ← stringCodes rest
    return (code :: codes, after)
  | '\\' :: e :: rest => do
    let code ← escapeCode? e
    let (codes, after) ← stringCodes rest
    return (code :: codes, after)
  | c :: rest =>
    if c.toNat < 0x20 || c == '\\' then none
    else do
      let (codes, after) ← stringCodes rest
      return (c.toNat :: codes, after)

/-- Whether a string is written without escapes up to its closing quote. -/
def isPlain (cs : List Char) : Bool :=
  !(cs.takeWhile fun c => c != '"').contains '\\'

/-- Whether a code is the first half of a surrogate pair. -/
def isLeading (n : Nat) : Bool := 0xD800 ≤ n && n < 0xDC00

/-- Whether a code is the second half of a surrogate pair. -/
def isTrailing (n : Nat) : Bool := 0xDC00 ≤ n && n < 0xE000

/-- The characters of a list of codes; none if half of a surrogate pair stands alone. -/
def joinSurrogates : List Nat → Option (List Char)
  | [] => some []
  | [n] => if isLeading n || isTrailing n then none else some [Char.ofNat n]
  | m :: n :: rest =>
    if isLeading m then
      if isTrailing n then
        (joinSurrogates rest).map
          (Char.ofNat (0x10000 + (m - 0xD800) * 0x400 + (n - 0xDC00)) :: ·)
      else none
    else if isTrailing m then none
    else (joinSurrogates (n :: rest)).map (Char.ofNat m :: ·)

/-- The digits at the start of a text and the rest. -/
def takeDigits (cs : List Char) : List Nat × List Char :=
  ((cs.takeWhile Char.isDigit).map fun c => c.toNat - '0'.toNat, cs.dropWhile Char.isDigit)

/-- The number that a list of digits names. -/
def ofDigits (ds : List Nat) : Nat :=
  ds.foldl (fun n d => 10 * n + d) 0

/-- The exponent at the start of a text, if one stands there, and the rest; none if an exponent has
no digits. -/
def takeExponent : List Char → Option (Option Int × List Char)
  | e :: rest =>
    if e == 'e' || e == 'E' then
      let (negative, afterSign) := match rest with
        | '-' :: r => (true, r)
        | '+' :: r => (false, r)
        | r => (false, r)
      match takeDigits afterSign with
      | ([], _) => none
      | (ds, after) => some (some (if negative then -(ofDigits ds : Int) else ofDigits ds), after)
    else some (none, e :: rest)
  | [] => some (none, [])

/-- The number at the start of a text, after its sign, and the rest. -/
def takeNumber (negative : Bool) (cs : List Char) : Option (Json × List Char) := do
  let (whole, afterWhole) := takeDigits cs
  if whole.isEmpty || (whole.length > 1 && whole.head? == some 0) then none
  else
    let (fraction, afterFraction) ← match afterWhole with
      | '.' :: rest =>
        let (ds, after) := takeDigits rest
        if ds.isEmpty then none else some (some ds, after)
      | _ => some (none, afterWhole)
    let (exponent, after) ← takeExponent afterFraction
    if fraction.isNone && exponent.isNone && !(negative && ofDigits whole == 0) then
      return (.integer (if negative then -(ofDigits whole : Int) else ofDigits whole), after)
    else
      let d : Decimal := ⟨negative, whole, fraction.getD [], exponent.getD 0⟩
      return (.decimal d, after)

/-- The text after a word that has to stand at its start. -/
def takeWord (word : String) (cs : List Char) : Option (List Char) :=
  if word.toList.isPrefixOf cs then some (cs.drop word.length) else none

/-- The string value that a list of codes spells. -/
def ofCodes (codes : List Nat) : Json :=
  match joinSurrogates codes with
  | some cs => .string (String.ofList cs)
  | none => .broken

/-- A name as read: the codes of a string and whether no escape stands among them. -/
structure RawName where
  /-- the codes -/
  codes : List Nat
  /-- whether it is written without escapes -/
  plain : Bool

/-- The name that a string spells. -/
def RawName.name? (raw : RawName) : Option MemberName :=
  (joinSurrogates raw.codes).map fun cs => ⟨String.ofList cs, raw.plain⟩

/-- The object with a list of members as read. -/
def ofMembers (members : List (RawName × Json)) : Json :=
  match members.mapM fun m => m.1.name?.map (·, m.2) with
  | some named => .object named
  | none => .broken

mutual

/-- The value at the start of a text, and the rest. -/
def takeValue : Nat → List Char → Option (Json × List Char)
  | 0, _ => none
  | fuel + 1, cs =>
    match skipGaps cs with
    | '{' :: rest =>
      match skipGaps rest with
      | '}' :: after => some (.object [], after)
      | inner => (takeMembers fuel inner).map fun (ms, after) => (ofMembers ms, after)
    | '[' :: rest =>
      match skipGaps rest with
      | ']' :: after => some (.array [], after)
      | inner => (takeItems fuel inner).map fun (items, after) => (.array items, after)
    | '"' :: rest => (stringCodes rest).map fun (codes, after) => (ofCodes codes, after)
    | '-' :: rest => takeNumber true rest
    | 'n' :: rest => (takeWord "ull" rest).map (Json.null, ·)
    | 't' :: rest => (takeWord "rue" rest).map (Json.bool true, ·)
    | 'f' :: rest => (takeWord "alse" rest).map (Json.bool false, ·)
    | rest => takeNumber false rest

/-- The members of an object that is open, its closing brace included, and the rest. -/
def takeMembers : Nat → List Char → Option (List (RawName × Json) × List Char)
  | 0, _ => none
  | fuel + 1, cs =>
    match skipGaps cs with
    | '"' :: quoted => do
      let (codes, afterName) ← stringCodes quoted
      let name : RawName := ⟨codes, isPlain quoted⟩
      match skipGaps afterName with
      | ':' :: afterColon =>
        let (value, afterValue) ← takeValue fuel afterColon
        match skipGaps afterValue with
        | ',' :: rest =>
          let (others, after) ← takeMembers fuel rest
          return ((name, value) :: others, after)
        | '}' :: after => return ([(name, value)], after)
        | _ => none
      | _ => none
    | _ => none

/-- The items of an array that is open, its closing bracket included, and the rest. -/
def takeItems : Nat → List Char → Option (List Json × List Char)
  | 0, _ => none
  | fuel + 1, cs => do
    let (value, afterValue) ← takeValue fuel cs
    match skipGaps afterValue with
    | ',' :: rest =>
      let (others, after) ← takeItems fuel rest
      return (value :: others, after)
    | ']' :: after => return ([value], after)
    | _ => none

end

/-- The value that a whole text spells. Every second step of the reader takes a character. -/
def parse (text : String) : Option Json :=
  match takeValue (2 * text.length + 2) text.toList with
  | some (value, rest) => if (skipGaps rest).isEmpty then some value else none
  | none => none

end Chargen.Json
