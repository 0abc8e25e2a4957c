import Composer.Toml.Assembly
import Composer.Toml.Scalar
set_option autoImplicit false

/-!
# Reading TOML

Readers take the unread characters and give what they read with the characters that remain, or
nothing if the text is not TOML. A line ends at a newline, which a carriage return may precede; in
strings of several lines both are read as a newline.
-/

namespace Composer.Toml

/-! ## Space -/

/-- The blanks within a line. -/
def isBlank (c : Char) : Bool := c == ' ' || c == '\t'

/-- The text without leading blanks. -/
def skipBlanks (cs : List Char) : List Char := cs.dropWhile isBlank

/-- The characters of comments and strings: a tab, and everything that is not a control character.
-/
def isPlain (c : Char) : Bool := c == '\t' || (0x20 ≤ c.toNat && c.toNat != 0x7F)

/-- What follows a newline. -/
def newline? : List Char → Option (List Char)
  | '\n' :: cs => some cs
  | '\r' :: '\n' :: cs => some cs
  | _ => none

/-- What follows the end of a line: blanks, a comment, and a newline or the end of the text. -/
def lineEnd? (cs : List Char) : Option (List Char) :=
  let cs := match skipBlanks cs with
    | '#' :: rest => rest.dropWhile isPlain
    | cs => cs
  if cs.isEmpty then some [] else newline? cs

/-- The text without leading blanks and newlines. -/
def skipSpace : List Char → List Char
  | [] => []
  | '\n' :: cs => skipSpace cs
  | '\r' :: '\n' :: cs => skipSpace cs
  | c :: cs => if isBlank c then skipSpace cs else c :: cs

/-- The text without leading blanks, newlines and comments; `inComment` tells whether it starts
inside a comment. -/
def skipFiller : (inComment : Bool) → List Char → List Char
  | _, [] => []
  | _, '\n' :: cs => skipFiller false cs
  | _, '\r' :: '\n' :: cs => skipFiller false cs
  | true, c :: cs => if isPlain c then skipFiller true cs else c :: cs
  | false, c :: cs =>
    if c = '#' then skipFiller true cs else if isBlank c then skipFiller false cs else c :: cs

/-! ## Strings -/

/-- The character with a code point. -/
def scalar? (n : Nat) : Option Char := if n.isValidChar then some (Char.ofNat n) else none

/-- The value of so many hexadecimal digits, and what follows them. -/
def hexDigits? : (count value : Nat) → List Char → Option (Nat × List Char)
  | 0, value, cs => some (value, cs)
  | _ + 1, _, [] => none
  | count + 1, value, c :: cs =>
    match Numeral.hexValue? c with
    | some d => hexDigits? count (value * 16 + d) cs
    | none => none

/-- The character that is written by its code point, in so many digits. -/
def codePoint? (count : Nat) (cs : List Char) : Option (Char × List Char) := do
  let (n, rest) ← hexDigits? count 0 cs
  let c ← scalar? n
  return (c, rest)

/-- Reads an escaped character after its backslash. -/
def escaped? : List Char → Option (Char × List Char)
  | 'b' :: cs => some ('\x08', cs)
  | 't' :: cs => some ('\t', cs)
  | 'n' :: cs => some ('\n', cs)
  | 'f' :: cs => some ('\x0c', cs)
  | 'r' :: cs => some ('\r', cs)
  | '"' :: cs => some ('"', cs)
  | '\\' :: cs => some ('\\', cs)
  | 'u' :: cs => codePoint? 4 cs
  | 'U' :: cs => codePoint? 8 cs
  | _ => none

/-- Reads a string on one line after its first quotation mark, of at most `n` characters. -/
def basicWithin : (n : Nat) → List Char → Option (List Char × List Char)
  | 0, _ => none
  | _ + 1, [] => none
  | n + 1, c :: cs =>
    if c = '"' then some ([], cs)
    else if c = '\\' then do
      let (x, rest) ← escaped? cs
      let (xs, rest) ← basicWithin n rest
      return (x :: xs, rest)
    else if isPlain c then (basicWithin n cs).map fun (xs, rest) => (c :: xs, rest)
    else none

/-- Reads a string without escapes after its first apostrophe. -/
def literal? : List Char → Option (List Char × List Char)
  | [] => none
  | c :: cs =>
    if c = '\'' then some ([], cs)
    else if isPlain c then (literal? cs).map fun (xs, rest) => (c :: xs, rest)
    else none

/-- Reads a string of several lines up to its three closing marks, of at most `n` characters. Up to
two marks in a row are part of the string, also just before its end. A backslash at the end of a
line swallows the space up to the next other character. -/
def linesWithin (mark : Char) (escapes : Bool) : (n : Nat) → List Char →
    Option (List Char × List Char)
  | 0, _ => none
  | _ + 1, [] => none
  | n + 1, c :: cs =>
    if c = mark then
      let run := ((c :: cs).takeWhile (· == mark)).length
      let rest := (c :: cs).drop run
      if run < 3 then
        (linesWithin mark escapes n rest).map fun (xs, rest) =>
          (List.replicate run mark ++ xs, rest)
      else if run ≤ 5 then some (List.replicate (run - 3) mark, rest)
      else none
    else if escapes && c == '\\' then
      match newline? (skipBlanks cs) with
      | some rest => linesWithin mark escapes n (skipSpace rest)
      | none => do
        let (x, rest) ← escaped? cs
        let (xs, rest) ← linesWithin mark escapes n rest
        return (x :: xs, rest)
    else
      match newline? (c :: cs) with
      | some rest => (linesWithin mark escapes n rest).map fun (xs, rest) => ('\n' :: xs, rest)
      | none =>
        if isPlain c then
          (linesWithin mark escapes n cs).map fun (xs, rest) => (c :: xs, rest)
        else none

/-- Reads a string of several lines after its three opening marks; a newline behind them is not part
of it. -/
def lines? (mark : Char) (escapes : Bool) (cs : List Char) : Option (List Char × List Char) :=
  let body := (newline? cs).getD cs
  linesWithin mark escapes (body.length + 1) body

/-- Reads a string of any of the four forms. -/
def string? : List Char → Option (List Char × List Char)
  | '"' :: '"' :: '"' :: cs => lines? '"' true cs
  | '"' :: cs => basicWithin (cs.length + 1) cs
  | '\'' :: '\'' :: '\'' :: cs => lines? '\'' false cs
  | '\'' :: cs => literal? cs
  | _ => none

/-! ## Keys -/

/-- The characters of keys without quotation marks. -/
def isKeyChar (c : Char) : Bool :=
  ('A' ≤ c && c ≤ 'Z') || ('a' ≤ c && c ≤ 'z') || Numeral.isDigit c || c == '_' || c == '-'

/-- Reads one key. -/
def key? (cs : List Char) : Option (List Char × List Char) :=
  match cs with
  | '"' :: rest => basicWithin (rest.length + 1) rest
  | '\'' :: rest => literal? rest
  | _ =>
    let name := cs.takeWhile isKeyChar
    if name.isEmpty then none else some (name, cs.dropWhile isKeyChar)

/-- Reads at most `n` keys with points between them, and the blanks around them. -/
def pathWithin : (n : Nat) → List Char → Option (List String × List Char)
  | 0, _ => none
  | n + 1, cs => do
    let (key, rest) ← key? (skipBlanks cs)
    match skipBlanks rest with
    | '.' :: rest => do
      let (path, rest) ← pathWithin n rest
      return (String.ofList key :: path, rest)
    | rest => return ([String.ofList key], rest)

/-- How deep values may be nested, and how many keys a path may have. -/
def maxDepth : Nat := 79

/-- Reads a path of keys. -/
def path? (cs : List Char) : Option (List String × List Char) := pathWithin maxDepth cs

/-! ## Values -/

/-- The characters of values that are neither quoted nor bracketed. -/
def isRunChar (c : Char) : Bool := isKeyChar c || c == '+' || c == '.' || c == ':'

/-- The run at the front of a text: a date takes a time behind a single space along. -/
def takeRun (cs : List Char) : List Char × List Char :=
  let run := cs.takeWhile isRunChar
  let rest := cs.dropWhile isRunChar
  match afterDate? run, rest with
  | some [], ' ' :: c :: rest =>
    if Numeral.isDigit c then
      (run ++ ' ' :: (c :: rest).takeWhile isRunChar, (c :: rest).dropWhile isRunChar)
    else (run, ' ' :: c :: rest)
  | _, _ => (run, rest)

/-- The value that a run writes. -/
def ofRun (run : List Char) : Option Toml :=
  if run = ['t', 'r', 'u', 'e'] then some (.boolean true)
  else if run = ['f', 'a', 'l', 's', 'e'] then some (.boolean false)
  else match integer? run with
    | some n => some (.integer n)
    | none =>
      if isFloat run then some (.float (String.ofList run))
      else if isDateTime run then some (.dateTime (String.ofList run))
      else none

/-- Reads the items of an array after its bracket, at most `n` of them. -/
def itemsWithin (item : List Char → Option (Toml × List Char)) : (n : Nat) → List Char →
    Option (List Toml × List Char)
  | 0, _ => none
  | n + 1, cs =>
    match skipFiller false cs with
    | ']' :: rest => some ([], rest)
    | cs => do
      let (x, rest) ← item cs
      match skipFiller false rest with
      | ']' :: rest => return ([x], rest)
      | ',' :: rest => do
        let (xs, rest) ← itemsWithin item n rest
        return (x :: xs, rest)
      | _ => none

/-- Reads an assignment up to the end of its value. -/
def pair? (item : List Char → Option (Toml × List Char)) (cs : List Char) :
    Option ((List String × Toml) × List Char) := do
  let (path, rest) ← path? cs
  match rest with
  | '=' :: rest => do
    let (v, rest) ← item (skipBlanks rest)
    return ((path, v), rest)
  | _ => none

/-- Reads the assignments between two braces, after the first brace, at most `n` of them. -/
def pairsWithin (item : List Char → Option (Toml × List Char)) : (n : Nat) → List Char →
    Option (List (List String × Toml) × List Char)
  | 0, _ => none
  | n + 1, cs => do
    let (pair, rest) ← pair? item cs
    match skipBlanks rest with
    | '}' :: rest => return ([pair], rest)
    | ',' :: rest => do
      let (pairs, rest) ← pairsWithin item n rest
      return (pair :: pairs, rest)
    | _ => none

/-- Reads a value in which arrays and tables may be nested `depth` deep. -/
def value? (depth : Nat) (cs : List Char) : Option (Toml × List Char) :=
  match cs with
  | '[' :: rest =>
    match depth with
    | 0 => none
    | depth + 1 => do
      let (items, rest) ← itemsWithin (value? depth) (rest.length + 1) rest
      return (.array items, rest)
  | '{' :: rest =>
    match depth with
    | 0 => none
    | depth + 1 =>
      match skipBlanks rest with
      | '}' :: rest => some (.table [], rest)
      | rest => do
        let (pairs, rest) ← pairsWithin (value? depth) (rest.length + 1) rest
        let table ← ofPairs pairs
        return (table, rest)
  | _ =>
    if cs.head? = some '"' ∨ cs.head? = some '\'' then
      (string? cs).map fun (s, rest) => (.string (String.ofList s), rest)
    else
      let (run, rest) := takeRun cs
      (ofRun run).map fun v => (v, rest)

/-! ## Documents -/

/-- Reads a statement up to the end of its line. -/
def statement? (cs : List Char) : Option (Statement × List Char) :=
  match skipBlanks cs with
  | '[' :: '[' :: rest => do
    let (path, rest) ← path? rest
    match rest with
    | ']' :: ']' :: rest => return (.openItem path, rest)
    | _ => none
  | '[' :: rest => do
    let (path, rest) ← path? rest
    match rest with
    | ']' :: rest => return (.openTable path, rest)
    | _ => none
  | rest => do
    let ((path, v), rest) ← pair? (value? maxDepth) rest
    return (.assign path v, rest)

/-- Reads the statements of a text of at most `n` lines. -/
def statementsWithin : (n : Nat) → List Char → Option (List Statement)
  | _, [] => some []
  | 0, _ :: _ => none
  | n + 1, cs =>
    match lineEnd? cs with
    | some rest => statementsWithin n rest
    | none => do
      let (s, rest) ← statement? cs
      let rest ← lineEnd? rest
      let statements ← statementsWithin n rest
      return s :: statements

/-- Reads the statements of a whole text, which a byte order mark may precede. -/
def statements? (cs : List Char) : Option (List Statement) :=
  let cs := match cs with
    | '\uFEFF' :: rest => rest
    | _ => cs
  statementsWithin cs.length cs

/-- The table that a text describes. -/
def parse? (s : String) : Option Toml := do
  let statements ← statements? s.toList
  ofStatements statements

end Composer.Toml
