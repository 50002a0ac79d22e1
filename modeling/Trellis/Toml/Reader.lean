import Trellis.Number.Numeral
import Trellis.Toml.Value
/-!
Reading TOML documents. `Toml.read?` gives the entries of the document, or nothing if it is ill-formed or
defines something twice.
-/

namespace Trellis.Toml

namespace Reader

def isSpace (c : Char) : Bool := c = ' ' || c = '\t'

def skipSpace (cs : List Char) : List Char := cs.dropWhile isSpace

/-- Whether a character may stand in a comment or, apart from the delimiters, in a string. -/
def isPrintable (c : Char) : Bool :=
  c = '\t' || (0x20 ≤ c.toNat && c.toNat ≤ 0x7E) || 0x80 ≤ c.toNat

/-- A line feed, alone or after a carriage return. -/
def newline? : List Char → Option (List Char)
  | '\n' :: rest => some rest
  | '\r' :: '\n' :: rest => some rest
  | _ => none

/-- Skip a comment, if there is one. -/
def skipComment (cs : List Char) : List Char :=
  match cs with
  | '#' :: rest => rest.dropWhile isPrintable
  | _ => cs

/-- Skip blanks, comments and line ends. -/
def skipLines : Nat → List Char → List Char
  | 0, cs => cs
  | fuel + 1, cs =>
    let cs := skipComment (skipSpace cs)
    match newline? cs with
    | some rest => skipLines fuel rest
    | none => cs

def isBareKeyChar (c : Char) : Bool := c.isAlphanum || c = '-' || c = '_'

def hexValue? (c : Char) : Option Nat :=
  if c.isDigit then some (c.toNat - 0x30)
  else if 'a' ≤ c ∧ c ≤ 'f' then some (c.toNat - 0x61 + 10)
  else if 'A' ≤ c ∧ c ≤ 'F' then some (c.toNat - 0x41 + 10)
  else none

/-- A character given by a fixed number of hexadecimal digits. -/
def codePoint? (digits n : Nat) (cs : List Char) : Option (Char × List Char) :=
  match digits with
  | 0 => if n < 0xD800 ∨ (0xDFFF < n ∧ n < 0x110000) then some (Char.ofNat n, cs) else none
  | digits + 1 => match cs with
    | [] => none
    | c :: rest => match hexValue? c with
      | none => none
      | some d => codePoint? digits (16 * n + d) rest

/-- The character that an escape stands for. -/
def escape? : List Char → Option (Char × List Char)
  | 'b' :: rest => some (Char.ofNat 8, rest)
  | 't' :: rest => some ('\t', rest)
  | 'n' :: rest => some ('\n', rest)
  | 'f' :: rest => some (Char.ofNat 12, rest)
  | 'r' :: rest => some ('\r', rest)
  | 'e' :: rest => some (Char.ofNat 27, rest)
  | '"' :: rest => some ('"', rest)
  | '\\' :: rest => some ('\\', rest)
  | 'x' :: rest => codePoint? 2 0 rest
  | 'u' :: rest => codePoint? 4 0 rest
  | 'U' :: rest => codePoint? 8 0 rest
  | _ => none

/-- The characters of a string on one line, up to the closing quote. -/
def basic? : Nat → List Char → Option (List Char × List Char)
  | 0, _ => none
  | fuel + 1, cs => match cs with
    | [] => none
    | '"' :: rest => some ([], rest)
    | '\\' :: rest => do
      let (c, rest) ← escape? rest
      let (more, rest) ← basic? fuel rest
      return (c :: more, rest)
    | c :: rest =>
      if isPrintable c then (basic? fuel rest).map fun more => (c :: more.1, more.2) else none

/-- The characters of a literal string on one line. -/
def literal? (cs : List Char) : Option (List Char × List Char) :=
  let text := cs.takeWhile fun c => isPrintable c && c ≠ '\''
  match cs.drop text.length with
  | '\'' :: rest => some (text, rest)
  | _ => none

/-- The end of a string over several lines: three quotes, before which up to two belong to the text. -/
def closing? (quote : Char) (cs : List Char) : Option (List Char × List Char) :=
  let run := (cs.takeWhile (· = quote)).length
  if run < 3 then none
  else
    let kept := min (run - 3) 2
    some (List.replicate kept quote, cs.drop (kept + 3))

/-- Skip blanks and line ends. -/
def skipBlankLines : List Char → List Char
  | [] => []
  | '\r' :: '\n' :: rest => skipBlankLines rest
  | c :: rest => if isSpace c ∨ c = '\n' then skipBlankLines rest else c :: rest

/-- After a backslash at the end of a line: what follows the blanks and line ends. -/
def continued? (cs : List Char) : Option (List Char) := (newline? (skipSpace cs)).map skipBlankLines

/-- The characters of a string over several lines, with or without escapes. Line ends stay as they are. -/
def multiLine? (quote : Char) (escapes : Bool) : Nat → List Char → Option (List Char × List Char)
  | 0, _ => none
  | fuel + 1, cs =>
    match closing? quote cs, newline? cs with
    | some ended, _ => some ended
    | none, some rest => (multiLine? quote escapes fuel rest).map fun more =>
      (cs.take (cs.length - rest.length) ++ more.1, more.2)
    | none, none => match cs with
      | [] => none
      | c :: rest =>
        if escapes ∧ c = '\\' then
          match continued? rest with
          | some rest => multiLine? quote escapes fuel rest
          | none => do
            let (c, rest) ← escape? rest
            let (more, rest) ← multiLine? quote escapes fuel rest
            return (c :: more, rest)
        else if isPrintable c then
          (multiLine? quote escapes fuel rest).map fun more => (c :: more.1, more.2)
        else none

/-- A line end right after the opening quotes does not count. -/
def skipFirstLine (cs : List Char) : List Char := (newline? cs).getD cs

/-- A string after its opening quote; `multi` allows several lines. -/
def string? (multi : Bool) (cs : List Char) : Option (String × List Char) :=
  let read := match cs with
    | '"' :: '"' :: '"' :: rest =>
      if multi then multiLine? '"' true (rest.length + 1) (skipFirstLine rest) else none
    | '\'' :: '\'' :: '\'' :: rest =>
      if multi then multiLine? '\'' false (rest.length + 1) (skipFirstLine rest) else none
    | '"' :: rest => basic? (rest.length + 1) rest
    | '\'' :: rest => literal? rest
    | _ => none
  read.map fun more => (String.ofList more.1, more.2)

/-- One part of a key. -/
def keyPart? (cs : List Char) : Option (String × List Char) :=
  match cs with
  | '"' :: _ | '\'' :: _ => string? false cs
  | _ =>
    let name := cs.takeWhile isBareKeyChar
    if name = [] then none else some (String.ofList name, cs.drop name.length)

/-- Parts of a key between dots, at most as many as told. -/
def keyParts? : Nat → List Char → Option (List String × List Char)
  | 0, _ => none
  | most + 1, cs => do
    let (part, rest) ← keyPart? (skipSpace cs)
    match skipSpace rest with
    | '.' :: rest =>
      let (parts, rest) ← keyParts? most rest
      return (part :: parts, rest)
    | rest => return ([part], rest)

/-- The greatest depth to which values nest, and the largest number of parts of a key. -/
def greatestDepth : Nat := 80

/-- A key: parts between dots. -/
def key? (cs : List Char) : Option (List String × List Char) := keyParts? greatestDepth cs

/-! Numbers and dates. -/

/-- Digits with single underscores between them. -/
def isDigits (digit : Char → Bool) : List Char → Bool
  | [] => false
  | [c] => digit c
  | c :: '_' :: rest => digit c && isDigits digit rest
  | c :: rest => digit c && isDigits digit rest

def isDecimalInteger (cs : List Char) : Bool :=
  cs = ['0'] || (cs.head? ≠ some '0' && isDigits Char.isDigit cs)

def dropSign : List Char → List Char
  | '+' :: rest => rest
  | '-' :: rest => rest
  | cs => cs

/-- An exponent after `e`, or nothing. -/
def isExponent : List Char → Bool
  | [] => true
  | c :: rest => (c = 'e' || c = 'E') && isDigits Char.isDigit (dropSign rest)

def dropUnderscores (cs : List Char) : List Char := cs.filter (· ≠ '_')

/-- Whether a whole number is within range: that of signed or that of unsigned numbers of 128 bits. -/
def inRange (n : Int) : Bool :=
  -170141183460469231731687303715884105728 ≤ n && n ≤ 340282366920938463463374607431768211455

/-- Whether digits in some base, smaller than it, spell a number within range. -/
def isBased (base : Nat) (cs : List Char) : Bool :=
  let isDigit (c : Char) : Bool := ((hexValue? c).filter (· < base)).isSome
  isDigits isDigit cs &&
    inRange ((dropUnderscores cs).foldl (fun n c => base * n + (hexValue? c).getD 0) 0 : Nat)

/-- Whether a text is a whole number within range. -/
def isInteger (cs : List Char) : Bool :=
  isDecimalInteger (dropSign cs) && ((Numeral.integer? (dropUnderscores cs)).map inRange).getD false

/-- Whether a text is a number with a fraction or an exponent, and not too large for a double. -/
def isDecimal (cs : List Char) : Bool :=
  let body := dropSign cs
  let whole := body.takeWhile fun c => c.isDigit || c = '_'
  let wellFormed := isDecimalInteger whole &&
    match body.drop whole.length with
    | '.' :: rest =>
      let fraction := rest.takeWhile fun c => c.isDigit || c = '_'
      isDigits Char.isDigit fraction && isExponent (rest.drop fraction.length)
    | rest => isExponent rest
  wellFormed && ((Numeral.decimal? (dropUnderscores cs)).bind Extended.finite?).isSome

/-- Whether a text is a number. -/
def isNumber (cs : List Char) : Bool :=
  match dropSign cs, cs with
  | ['i', 'n', 'f'], _ | ['n', 'a', 'n'], _ => true
  | _, '0' :: 'x' :: rest => isBased 16 rest
  | _, '0' :: 'o' :: rest => isBased 8 rest
  | _, '0' :: 'b' :: rest => isBased 2 rest
  | body, _ => if body.all fun c => c.isDigit || c = '_' then isInteger cs else isDecimal cs

def daysIn (year month : Nat) : Nat :=
  if month = 2 then
    if (year % 4 = 0 ∧ year % 100 ≠ 0) ∨ year % 400 = 0 then 29 else 28
  else if month = 4 ∨ month = 6 ∨ month = 9 ∨ month = 11 then 30 else 31

/-- A fixed number of digits. -/
def number? : Nat → Nat → List Char → Option (Nat × List Char)
  | 0, n, cs => some (n, cs)
  | digits + 1, n, cs => match cs with
    | [] => none
    | c :: rest => if c.isDigit then number? digits (10 * n + (c.toNat - 0x30)) rest else none

/-- A character that has to come next. -/
def expect? (c : Char) : List Char → Option (List Char)
  | [] => none
  | d :: rest => if c = d then some rest else none

/-- A date, and what follows it. -/
def date? (cs : List Char) : Option (List Char) := do
  let (year, cs) ← number? 4 0 cs
  let (month, cs) ← number? 2 0 (← expect? '-' cs)
  let (day, cs) ← number? 2 0 (← expect? '-' cs)
  if 1 ≤ month ∧ month ≤ 12 ∧ 1 ≤ day ∧ day ≤ daysIn year month then some cs else none

/-- A time of day, and what follows it. Seconds may be left out. -/
def time? (cs : List Char) : Option (List Char) := do
  let (hour, cs) ← number? 2 0 cs
  let (minute, cs) ← number? 2 0 (← expect? ':' cs)
  if 23 < hour ∨ 59 < minute then none
  else match cs with
    | ':' :: rest =>
      let (second, rest) ← number? 2 0 rest
      if 60 < second then none
      else match rest with
        | '.' :: rest =>
          let fraction := rest.takeWhile Char.isDigit
          if fraction = [] then none else some (rest.drop fraction.length)
        | rest => some rest
    | rest => some rest

/-- The distance from universal time, or nothing. -/
def isOffset (cs : List Char) : Bool :=
  match cs with
  | [] | ['Z'] | ['z'] => true
  | c :: rest =>
    if c = '+' ∨ c = '-' then
      let read : Option Bool := do
        let (hour, rest) ← number? 2 0 rest
        let (minute, rest) ← number? 2 0 (← expect? ':' rest)
        return rest = [] && hour ≤ 23 && minute ≤ 59
      read.getD false
    else false

/-- Whether a text is a date, a time or both. -/
def isMoment (cs : List Char) : Bool :=
  match date? cs with
  | some [] => true
  | some (c :: rest) => (c = 'T' || c = 't' || c = ' ') && ((time? rest).map isOffset).getD false
  | none => time? cs = some []

def isScalarChar (c : Char) : Bool :=
  c.isAlphanum || c = '+' || c = '-' || c = '_' || c = '.' || c = ':'

/-- A truth value, a number or a date. A blank may stand between a date and a time. -/
def scalar? (cs : List Char) : Option (Toml × List Char) :=
  let text := cs.takeWhile isScalarChar
  let rest := cs.drop text.length
  let (text, rest) := match date? text, rest with
    | some [], ' ' :: d :: more =>
      if d.isDigit then
        let time := (d :: more).takeWhile isScalarChar
        (text ++ ' ' :: time, (d :: more).drop time.length)
      else (text, rest)
    | _, _ => (text, rest)
  if text = ['t', 'r', 'u', 'e'] then some (.bool true, rest)
  else if text = ['f', 'a', 'l', 's', 'e'] then some (.bool false, rest)
  else if isNumber text || isMoment text then some (.scalar (String.ofList text), rest)
  else none

/-- The items of an array after its opening bracket. -/
def items? (item : List Char → Option (Toml × List Char)) :
    Nat → List Char → Option (List Toml × List Char)
  | 0, _ => none
  | fuel + 1, cs => match skipLines cs.length cs with
    | ']' :: rest => some ([], rest)
    | cs => do
      let (value, rest) ← item cs
      match skipLines rest.length rest with
      | ',' :: rest =>
        let (values, rest) ← items? item fuel rest
        return (value :: values, rest)
      | ']' :: rest => return ([value], rest)
      | _ => none

/-- The entries of an inline table after its opening brace. -/
def entries? (item : List Char → Option (Toml × List Char)) :
    Nat → Entries → List Char → Option (Entries × List Char)
  | 0, _, _ => none
  | fuel + 1, es, cs => match skipLines cs.length cs with
    | '}' :: rest => some (es, rest)
    | cs => do
      let (path, rest) ← key? cs
      let rest ← expect? '=' (skipLines rest.length rest)
      let (value, rest) ← item (skipLines rest.length rest)
      let es ← Entries.insert? value true path es
      match skipLines rest.length rest with
      | ',' :: rest => entries? item fuel es rest
      | '}' :: rest => return (es, rest)
      | _ => none

/-- A value that nests at most to the given depth. -/
def value? : Nat → List Char → Option (Toml × List Char)
  | depth, cs => match cs with
    | '"' :: _ | '\'' :: _ => (string? true cs).map fun read => (.string read.1, read.2)
    | '[' :: rest => match depth with
      | 0 => none
      | depth + 1 =>
        (items? (value? depth) rest.length rest).map fun read => (.array read.1, read.2)
    | '{' :: rest => match depth with
      | 0 => none
      | depth + 1 =>
        (entries? (value? depth) rest.length [] rest).map fun read =>
          (.table .inline read.1, read.2)
    | _ => scalar? cs

/-- The end of a line, after blanks and a comment. -/
def lineEnd? (cs : List Char) : Option (List Char) :=
  match skipComment (skipSpace cs) with
  | [] => some []
  | cs => newline? cs

/-- A document as far as it was read: its entries and the latest header. -/
structure Document where
  entries : Entries
  header : List String

/-- A header: the path in single or doubled brackets. -/
def header? (d : Document) (cs : List Char) : Option (Document × List Char) :=
  match cs with
  | '[' :: rest => do
    let (path, rest) ← key? rest
    let rest ← expect? ']' rest
    let rest ← expect? ']' rest
    return (⟨← d.entries.change? Entries.openElement path, path⟩, rest)
  | _ => do
    let (path, rest) ← key? cs
    let rest ← expect? ']' rest
    return (⟨← d.entries.change? Entries.openTable path, path⟩, rest)

/-- A key and its value. -/
def pair? (d : Document) (cs : List Char) : Option (Document × List Char) := do
  let (path, rest) ← key? cs
  let rest ← expect? '=' rest
  let (value, rest) ← value? greatestDepth (skipSpace rest)
  return ({ d with entries := ← d.entries.insertAt? d.header path value }, rest)

/-- Read line after line. -/
def lines? : Nat → Document → List Char → Option Document
  | 0, d, cs => if skipLines cs.length cs = [] then some d else none
  | fuel + 1, d, cs => match skipLines cs.length cs with
    | [] => some d
    | '[' :: rest => do
      let (d, rest) ← header? d rest
      lines? fuel d (← lineEnd? rest)
    | cs => do
      let (d, rest) ← pair? d cs
      lines? fuel d (← lineEnd? rest)

/-- Skip a byte order mark. -/
def skipMark (cs : List Char) : List Char :=
  match cs with
  | c :: rest => if c.toNat = 0xFEFF then rest else cs
  | [] => []

end Reader

/-- The entries of a document. -/
def read? (text : String) : Option Entries :=
  let cs := Reader.skipMark text.toList
  (Reader.lines? cs.length ⟨[], []⟩ cs).map (·.entries)

end Trellis.Toml
