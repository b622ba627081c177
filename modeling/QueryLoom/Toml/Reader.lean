import QueryLoom.Text.Digits
import QueryLoom.Toml

/-!
# Reading TOML

A reader of TOML documents: headers, dotted keys, strings in their four forms, integers, inline
tables and arrays, comments, and either line end. Floating-point numbers and dates are recognised,
but not kept.

## Implementation notes

A document is read line by line against the entries so far, so a key that is given twice is found
where it is given. The fuel of the mutual readers is the length of the text.
-/

namespace QueryLoom.Toml.Reader

/-- What is left of a text. -/
abbrev Rest := List Char

/-- The text without the blanks and tabs at its start. -/
def skipSpace (text : Rest) : Rest := text.dropWhile fun c => c == ' ' || c == '\t'

/-- Takes a line end. -/
def lineEnd? : Rest → Option Rest
  | '\n' :: rest | '\r' :: '\n' :: rest => some rest
  | _ => none

/-- Whether a character may stand in a comment or a literal string. -/
def isPlain (c : Char) : Bool := c == '\t' || (32 ≤ c.toNat && c.toNat != 127)

/-- Takes blanks and a comment. -/
def skipComment (text : Rest) : Rest :=
  match skipSpace text with
  | '#' :: rest => rest.dropWhile isPlain
  | rest => rest

/-- Takes what may stand behind a value or a header: blanks, a comment, and a line end or the end
of the text. -/
def endOfLine? (text : Rest) : Option Rest :=
  match skipComment text with
  | [] => some []
  | rest => lineEnd? rest

/-- Takes blanks, comments and line ends. -/
def skipLines : Nat → Rest → Rest
  | 0, text => text
  | fuel + 1, text =>
    let rest := skipComment text
    match lineEnd? rest with
    | some rest => skipLines fuel rest
    | none => rest

/-- Reads a number of hexadecimal digits as a character. -/
def codePoint? (digits : Nat) (text : Rest) : Option (Char × Rest) := do
  let values ← (text.take digits).mapM Text.hexValue?
  let code := values.foldl (fun total value => 16 * total + value) 0
  if values.length = digits && (code < 0xD800 || (0xDFFF < code && code < 0x110000)) then
    return (Char.ofNat code, text.drop digits)
  else none

/-- Reads what follows the backslash of an escape. -/
def escape? : Rest → Option (Char × Rest)
  | 'b' :: rest => some ('\x08', rest)
  | 't' :: rest => some ('\t', rest)
  | 'n' :: rest => some ('\n', rest)
  | 'f' :: rest => some ('\x0c', rest)
  | 'r' :: rest => some ('\r', rest)
  | '"' :: rest => some ('"', rest)
  | '\\' :: rest => some ('\\', rest)
  | 'u' :: rest => codePoint? 4 rest
  | 'U' :: rest => codePoint? 8 rest
  | _ => none

/-- Reads the rest of a string in double quotes; `read` holds what was read, reversed. -/
def basic? : Nat → List Char → Rest → Option (String × Rest)
  | 0, _, _ => none
  | fuel + 1, read, text =>
    match text with
    | '"' :: rest => some (String.ofList read.reverse, rest)
    | '\\' :: rest => do
      let (c, rest) ← escape? rest
      basic? fuel (c :: read) rest
    | c :: rest => if isPlain c then basic? fuel (c :: read) rest else none
    | [] => none

/-- Reads the rest of a string in single quotes. -/
def literal? (text : Rest) : Option (String × Rest) :=
  let body := text.takeWhile fun c => isPlain c && c != '\''
  match text.drop body.length with
  | '\'' :: rest => some (String.ofList body, rest)
  | _ => none

/-- Closing quotes of a string over several lines: three, and up to two in front that belong to
the string. -/
def closing? (quote : Char) (text : Rest) : Option (Nat × Rest) :=
  let quotes := (text.takeWhile (· == quote)).length
  if 3 ≤ quotes then
    let kept := min (quotes - 3) 2
    some (kept, text.drop (kept + 3))
  else none

/-- Takes blanks and line ends behind a backslash at the end of a line. -/
def skipFold (text : Rest) : Option Rest := do
  let rest ← lineEnd? (skipSpace text)
  return rest.dropWhile fun c => c == ' ' || c == '\t' || c == '\n' || c == '\r'

/-- Reads the rest of a string over several lines; with `escapes` between double quotes. -/
def multiline? (quote : Char) (escapes : Bool) : Nat → List Char → Rest → Option (String × Rest)
  | 0, _, _ => none
  | fuel + 1, read, text =>
    match closing? quote text with
    | some (kept, rest) =>
      some (String.ofList (List.replicate kept quote ++ read).reverse, rest)
    | none =>
      match lineEnd? text, text with
      | some rest, _ => multiline? quote escapes fuel ('\n' :: read) rest
      | none, '\\' :: rest =>
        if escapes then
          match skipFold rest with
          | some rest => multiline? quote escapes fuel read rest
          | none => do
            let (c, rest) ← escape? rest
            multiline? quote escapes fuel (c :: read) rest
        else multiline? quote escapes fuel ('\\' :: read) rest
      | none, c :: rest =>
        if isPlain c then multiline? quote escapes fuel (c :: read) rest else none
      | none, [] => none

/-- The text without a line end at its start. -/
def skipFirstLineEnd (text : Rest) : Rest := (lineEnd? text).getD text

/-- Reads a string of any form. -/
def string? : Rest → Option (String × Rest)
  | '"' :: '"' :: '"' :: rest => multiline? '"' true (rest.length + 1) [] (skipFirstLineEnd rest)
  | '\'' :: '\'' :: '\'' :: rest =>
    multiline? '\'' false (rest.length + 1) [] (skipFirstLineEnd rest)
  | '"' :: rest => basic? (rest.length + 1) [] rest
  | '\'' :: rest => literal? rest
  | _ => none

/-- Whether a character may stand in a bare key. -/
def isBare (c : Char) : Bool := c.isAlphanum || c == '_' || c == '-'

/-- Reads one part of a key. -/
def simpleKey? : Rest → Option (String × Rest)
  | '"' :: rest => basic? (rest.length + 1) [] rest
  | '\'' :: rest => literal? rest
  | text =>
    match text.takeWhile isBare with
    | [] => none
    | key => some (String.ofList key, text.drop key.length)

/-- Reads a key of parts between dots, with blanks around it. -/
def key? : Nat → Rest → Option (List String × Rest)
  | 0, _ => none
  | fuel + 1, text => do
    let (part, rest) ← simpleKey? (skipSpace text)
    match skipSpace rest with
    | '.' :: rest =>
      let (path, rest) ← key? fuel rest
      return (part :: path, rest)
    | rest => return ([part], rest)

/-- The digits of a numeral with underscores between digits; nothing if one stands elsewhere. -/
def ungrouped? (isDigit : Char → Bool) : List Char → Option (List Char)
  | [] => none
  | [c] => if isDigit c then some [c] else none
  | c :: '_' :: rest => if isDigit c then (ungrouped? isDigit rest).map (c :: ·) else none
  | c :: rest => if isDigit c then (ungrouped? isDigit rest).map (c :: ·) else none

/-- The number of digits in a base, within 64 bits with sign. -/
def number? (negative : Bool) (base : Nat) (digits : List Char) : Option Int64 := do
  let values ← digits.mapM Text.hexValue?
  let size : Nat := values.foldl (fun total value => base * total + value) 0
  let n : Int := if negative then -size else size
  if Int64.minValue.toInt ≤ n && n ≤ Int64.maxValue.toInt then return Int64.ofInt n else none

/-- The decimal digits of an integer, which start with a zero only if that is all. -/
def decimalDigits? (digits : List Char) : Option (List Char) := do
  let digits ← ungrouped? Char.isDigit digits
  if digits.length != 1 && digits.head? == some '0' then none else return digits

/-- Splits a sign off a numeral. -/
def signed : List Char → Bool × List Char
  | '-' :: rest => (true, rest)
  | '+' :: rest => (false, rest)
  | rest => (false, rest)

/-- Whether a word is a floating-point number. -/
def isReal (word : List Char) : Bool :=
  let body := (signed word).2
  let isPower (power : List Char) : Bool := (ungrouped? Char.isDigit (signed power).2).isSome
  if body == "inf".toList || body == "nan".toList then true
  else
    let whole := body.takeWhile fun c => c.isDigit || c == '_'
    (decimalDigits? whole).isSome &&
      match body.drop whole.length with
      | '.' :: rest =>
        let places := rest.takeWhile fun c => c.isDigit || c == '_'
        (ungrouped? Char.isDigit places).isSome &&
          match rest.drop places.length with
          | [] => true
          | 'e' :: power | 'E' :: power => isPower power
          | _ => false
      | 'e' :: power | 'E' :: power => isPower power
      | _ => false

/-- Whether a word has the shape of a date, a time of day, or both. -/
def isMoment (word : List Char) : Bool :=
  let shape := word.map fun c => if c.isDigit then '0' else c
  let isTime (shape : List Char) : Bool :=
    "00:00:00".toList.isPrefixOf shape &&
      match shape.drop 8 with
      | [] => true
      | '.' :: rest => !rest.isEmpty && rest.all (· == '0')
      | _ => false
  let withoutOffset (shape : List Char) : List Char :=
    match shape.getLast? with
    | some 'Z' | some 'z' => shape.dropLast
    | _ =>
      let tail := shape.drop (shape.length - 6)
      if tail == "+00:00".toList || tail == "-00:00".toList then shape.take (shape.length - 6)
      else shape
  if "0000-00-00".toList.isPrefixOf shape then
    match shape.drop 10 with
    | [] => true
    | 'T' :: rest | 't' :: rest | ' ' :: rest => isTime (withoutOffset rest)
    | _ => false
  else isTime shape

/-- Whether a character may stand in a value without quotes. -/
def isWord (c : Char) : Bool := isBare c || c == '+' || c == '.' || c == ':'

/-- Takes a value without quotes off the start of a text. A blank may stand between a date and a
time. -/
def splitWord (text : Rest) : List Char × Rest :=
  let word := text.takeWhile isWord
  let rest := text.drop word.length
  match rest with
  | ' ' :: next :: _ =>
    if word.length == 10 && isMoment word && next.isDigit then
      let time := (rest.drop 1).takeWhile isWord
      (word ++ ' ' :: time, rest.drop (time.length + 1))
    else (word, rest)
  | _ => (word, rest)

/-- The value that a word writes. -/
def ofWord? (word : List Char) : Option Toml :=
  match word with
  | ['t', 'r', 'u', 'e'] => some (.boolean true)
  | ['f', 'a', 'l', 's', 'e'] => some (.boolean false)
  | '0' :: 'x' :: digits =>
    ((ungrouped? (fun c => (Text.hexValue? c).isSome) digits).bind (number? false 16)).map .integer
  | '0' :: 'o' :: digits =>
    ((ungrouped? (fun c => '0' ≤ c && c ≤ '7') digits).bind (number? false 8)).map .integer
  | '0' :: 'b' :: digits =>
    ((ungrouped? (fun c => c == '0' || c == '1') digits).bind (number? false 2)).map .integer
  | word =>
    let (negative, body) := signed word
    if body.all fun c => c.isDigit || c == '_' then
      ((decimalDigits? body).bind (number? negative 10)).map .integer
    else if isReal word then some .real
    else if isMoment word then some .moment
    else none

mutual
/-- Reads a value. -/
def value? (fuel : Nat) (text : Rest) : Option (Toml × Rest) :=
  match fuel with
  | 0 => none
  | fuel + 1 =>
    match text with
    | [] => none
    | '"' :: _ | '\'' :: _ => (string? text).map fun (s, rest) => (.string s, rest)
    | '[' :: rest => (items? fuel rest).map fun (items, rest) => (.array items, rest)
    | '\x7b' :: rest =>
      match skipSpace rest with
      | '\x7d' :: rest => some (.table .inline [], rest)
      | rest => (inline? fuel [] rest).map fun (entries, rest) => (.table .inline entries, rest)
    | text => do
      let (word, rest) := splitWord text
      return (← ofWord? word, rest)
termination_by structural fuel

/-- Reads the elements of an array and its closing bracket; a comma may stand behind the last. -/
def items? (fuel : Nat) (text : Rest) : Option (List Toml × Rest) :=
  match fuel with
  | 0 => none
  | fuel + 1 =>
    match skipLines text.length text with
    | ']' :: rest => some ([], rest)
    | text => do
      let (item, rest) ← value? fuel text
      match skipLines rest.length rest with
      | ',' :: rest =>
        let (items, rest) ← items? fuel rest
        return (item :: items, rest)
      | ']' :: rest => return ([item], rest)
      | _ => none
termination_by structural fuel

/-- Reads the entries of an inline table, which stands on one line, and its closing brace. -/
def inline? (fuel : Nat) (entries : Entries) (text : Rest) : Option (Entries × Rest) :=
  match fuel with
  | 0 => none
  | fuel + 1 => do
    let (path, rest) ← key? (text.length + 1) text
    match rest with
    | '=' :: rest =>
      let (value, rest) ← value? fuel (skipSpace rest)
      let entries ← assign? path value entries
      match skipSpace rest with
      | ',' :: rest => inline? fuel entries rest
      | '\x7d' :: rest => return (entries, rest)
      | _ => none
    | _ => none
termination_by structural fuel
end

/-- Reads a key with its value. -/
def assignment? (text : Rest) : Option (List String × Toml × Rest) := do
  let (path, rest) ← key? (text.length + 1) text
  match rest with
  | '=' :: rest =>
    let (value, rest) ← value? (rest.length + 1) (skipSpace rest)
    return (path, value, rest)
  | _ => none

/-- Reads the lines of a document into the entries so far; `header` is the open table. -/
def lines? : Nat → List String → Entries → Rest → Option Entries
  | 0, _, _, _ => none
  | fuel + 1, header, entries, text =>
    match skipLines text.length text with
    | [] => some entries
    | '[' :: '[' :: rest => do
      let (path, rest) ← key? (rest.length + 1) rest
      match rest with
      | ']' :: ']' :: rest => lines? fuel path (← openItem? path entries) (← endOfLine? rest)
      | _ => none
    | '[' :: rest => do
      let (path, rest) ← key? (rest.length + 1) rest
      match rest with
      | ']' :: rest => lines? fuel path (← openTable? path entries) (← endOfLine? rest)
      | _ => none
    | text => do
      let (path, value, rest) ← assignment? text
      lines? fuel header (← assignUnder? header path value entries) (← endOfLine? rest)

end QueryLoom.Toml.Reader

namespace QueryLoom

/-- The entries that a TOML document gives. A byte order mark at its start is passed over. -/
def Toml.parse? (text : String) : Option Toml.Entries :=
  let cs := match text.toList with
    | '\ufeff' :: rest => rest
    | cs => cs
  Toml.Reader.lines? (cs.length + 1) [] [] cs

end QueryLoom
