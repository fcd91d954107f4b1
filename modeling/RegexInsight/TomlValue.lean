import RegexInsight.Letters

/-! Values of configuration texts. Tables are filled step by step; texts, truth values, numbers and dates
are read from lines that are ended by a line feed alone. -/
namespace RegexInsight

/-- How a table came to be. This decides what may be added to it later. -/
inductive TableOrigin where
  | header
  | implied
  | dotted
  | inline
deriving DecidableEq, Repr, Inhabited

/-- A value, as far as settings can depend on it. Of a float only counts whether it is too large,
and of a text or a date nothing. An array of tables is one that headers add to. -/
inductive TomlValue where
  | text
  | dateTime
  | boolean (value : Bool)
  | integer (value : Int)
  | float (tooLarge : Bool)
  | array (ofTables : Bool) (items : List TomlValue)
  | table (origin : TableOrigin) (entries : List (String × TomlValue))

abbrev TomlEntries := List (String × TomlValue)

namespace TomlEntries

def find? (entries : TomlEntries) (key : String) : Option TomlValue := entries.lookup key

def replace (entries : TomlEntries) (key : String) (value : TomlValue) : TomlEntries :=
  entries.map fun (k, v) => if k == key then (k, value) else (k, v)

def add? (entries : TomlEntries) (key : String) (value : TomlValue) : Option TomlEntries :=
  if (entries.find? key).isSome then none else some (entries ++ [(key, value)])

/-- Changes the table that a path leads to. Tables that are missing on the way are made. With
`dotted` the path is that of a dotted key, which may not pass through a table that has a header. -/
def changeAt? (dotted : Bool) (change : TableOrigin → TomlEntries → Option TomlEntries)
    (origin : TableOrigin) (entries : TomlEntries) : List String → Option TomlEntries
  | [] => change origin entries
  | key :: path =>
    match entries.find? key with
    | none =>
      let made := if dotted then .dotted else .implied
      (changeAt? dotted change made [] path).map fun child => entries ++ [(key, .table made child)]
    | some (.table o child) =>
      if o = .inline || (dotted && o = .header) then none
      else (changeAt? dotted change o child path).map fun child =>
        entries.replace key (.table o child)
    | some (.array true items) =>
      match items.getLast? with
      | some (.table o child) =>
        (changeAt? dotted change o child path).map fun child =>
          entries.replace key (.array true (items.dropLast ++ [.table o child]))
      | _ => none
    | some _ => none

/-- Adds the value of a dotted key whose last part is `key`. -/
def addDotted? (path : List String) (key : String) (value : TomlValue) (origin : TableOrigin)
    (entries : TomlEntries) : Option TomlEntries :=
  changeAt? true
    (fun o child =>
      if path.isEmpty = (o = .dotted : Bool) then none else child.add? key value)
    origin entries path

/-- Opens the table of a header. One that other headers only implied may be opened once. -/
def openTable? (key : String) (entries : TomlEntries) : Option TomlEntries :=
  match entries.find? key with
  | none => some (entries ++ [(key, .table .header [])])
  | some (.table .implied child) => some (entries.replace key (.table .header child))
  | some _ => none

def openItem? (key : String) (entries : TomlEntries) : Option TomlEntries :=
  match entries.find? key with
  | none => some (entries ++ [(key, .array true [.table .header []])])
  | some (.array true items) =>
    some (entries.replace key (.array true (items ++ [.table .header []])))
  | some _ => none

end TomlEntries

namespace TomlScalar

def isForbidden (c : Char) : Bool := (c.toNat < 0x20 && c != '\t') || c.toNat == 0x7F

def isBlank (c : Char) : Bool := c == ' ' || c == '\t'

/-! Quoted texts -/

/-- What is being read in a quoted text: a character, the letter behind a backslash, the digits of a
character's number, or the blanks around a line end that a backslash leaves out. -/
inductive QuoteState where
  | plain
  | escape
  | digits (left value : Nat)
  | fold (ended : Bool)

def shortEscape? : Char → Option Char
  | 'b' => some '\x08'
  | 't' => some '\t'
  | 'n' => some '\n'
  | 'f' => some '\x0C'
  | 'r' => some '\r'
  | 'e' => some '\x1B'
  | '"' => some '"'
  | '\\' => some '\\'
  | _ => none

def digitCount? : Char → Option Nat
  | 'x' => some 2
  | 'u' => some 4
  | 'U' => some 8
  | _ => none

/-- Of the quotation marks behind three closing ones, up to two belong to the text. -/
def closeLong (mark : Char) (out cs : List Char) : List Char × List Char :=
  let extra := (cs.take 2).takeWhile (· == mark)
  (out.reverse ++ extra, cs.drop extra.length)

/-- Reads a text up to its closing mark, of which a `long` text has three. Only between double marks
does a backslash escape, and only a long text may hold line ends. -/
def readQuoted (mark : Char) (long : Bool) (out : List Char) :
    QuoteState → List Char → Option (List Char × List Char)
  | _, [] => none
  | .escape, c :: cs =>
    match shortEscape? c, digitCount? c with
    | some char, _ => readQuoted mark long (char :: out) .plain cs
    | none, some count => readQuoted mark long out (.digits count 0) cs
    | none, none =>
      if long && (isBlank c || c == '\n') then readQuoted mark long out (.fold (c == '\n')) cs
      else none
  | .digits left value, c :: cs =>
    match hexValue? c with
    | none => none
    | some digit =>
      let value := 16 * value + digit
      if 1 < left then readQuoted mark long out (.digits (left - 1) value) cs
      else if value.isValidChar then readQuoted mark long (Char.ofNat value :: out) .plain cs
      else none
  | .fold false, c :: cs =>
    if isBlank c || c == '\n' then readQuoted mark long out (.fold (c == '\n')) cs else none
  | state, c :: cs =>
    if state matches .fold _ && (isBlank c || c == '\n') then
      readQuoted mark long out (.fold true) cs
    else if c == mark then
      if !long then some (out.reverse, cs)
      else if cs.take 2 == [mark, mark] then some (closeLong mark out (cs.drop 2))
      else readQuoted mark long (c :: out) .plain cs
    else if c == '\\' && mark == '"' then readQuoted mark long out .escape cs
    else if isForbidden c && !(long && c == '\n') then none
    else readQuoted mark long (c :: out) .plain cs

def readShort : List Char → Option (List Char × List Char)
  | c :: cs => if c == '"' || c == '\x27' then readQuoted c false [] .plain cs else none
  | [] => none

def readText : List Char → Option (List Char × List Char)
  | c :: cs =>
    if (c == '"' || c == '\x27') && cs.take 2 == [c, c] then
      let cs := cs.drop 2
      readQuoted c true [] .plain (if cs.head? = some '\n' then cs.drop 1 else cs)
    else readShort (c :: cs)
  | [] => none

/-! Numbers -/

def digit? (base : Nat) (c : Char) : Option Nat := (hexValue? c).filter (· < base)

def digitsFrom? (base value : Nat) (afterDigit : Bool) : List Char → Option Nat
  | [] => if afterDigit then some value else none
  | c :: cs =>
    if c == '_' && afterDigit then digitsFrom? base value false cs
    else
      match digit? base c with
      | none => none
      | some d => digitsFrom? base (base * value + d) true cs

def digits? (base : Nat) (cs : List Char) : Option Nat := digitsFrom? base 0 false cs

def decimal? (cs : List Char) : Option Nat :=
  if cs.head? = some '0' && 1 < cs.length then none else digits? 10 cs

def splitSign : List Char → Bool × List Char
  | '-' :: cs => (true, cs)
  | '+' :: cs => (false, cs)
  | cs => (false, cs)

def integer? (cs : List Char) : Option Int :=
  match cs with
  | '0' :: 'x' :: ds => (digits? 16 ds).map Int.ofNat
  | '0' :: 'o' :: ds => (digits? 8 ds).map Int.ofNat
  | '0' :: 'b' :: ds => (digits? 2 ds).map Int.ofNat
  | _ =>
    let (negative, ds) := splitSign cs
    (decimal? ds).map fun n => if negative then -Int.ofNat n else Int.ofNat n

/-- Whether `n * 10 ^ exponent` is too large for a float: half a unit above the largest one. -/
def overflows (n : Nat) (exponent : Int) : Bool :=
  let magnitude := Int.ofNat (Nat.toDigits 10 n).length + exponent
  if n = 0 || magnitude < 300 then false
  else if 320 < magnitude then true
  else
    let limit := Nat.pow 2 1024 - Nat.pow 2 970
    match exponent with
    | .ofNat e => limit ≤ n * Nat.pow 10 e
    | .negSucc e => limit * Nat.pow 10 (e + 1) ≤ n

def splitFirst (p : Char → Bool) (cs : List Char) : List Char × Option (List Char) :=
  match cs.dropWhile (!p ·) with
  | [] => (cs, none)
  | _ :: after => (cs.takeWhile (!p ·), some after)

def exponent? : Option (List Char) → Option Int
  | none => some 0
  | some cs =>
    let (negative, ds) := splitSign cs
    (digits? 10 ds).map fun n => if negative then -Int.ofNat n else Int.ofNat n

/-- Reads a float, which has a fraction or an exponent or is one of two words. -/
def float? (cs : List Char) : Option TomlValue :=
  let (_, body) := splitSign cs
  if body == ['i', 'n', 'f'] || body == ['n', 'a', 'n'] then some (.float false)
  else
    let (mantissa, power) := splitFirst (fun c => c == 'e' || c == 'E') body
    let (whole, fraction) := splitFirst (· == '.') mantissa
    if power.isNone && fraction.isNone then none
    else
      match decimal? whole, fraction.map (digits? 10), exponent? power with
      | some n, none, some e => some (.float (overflows n e))
      | some n, some (some f), some e =>
        let places := ((fraction.getD []).filter (· != '_')).length
        some (.float (overflows (n * Nat.pow 10 places + f) (e - places)))
      | _, _, _ => none

/-! Dates and times -/

def twoDigits? (low high : Nat) (a b : Char) : Option Nat :=
  if a.isDigit && b.isDigit then
    (digits? 10 [a, b]).filter fun n => low ≤ n && n ≤ high
  else none

def daysIn (year month : Nat) : Nat :=
  if month = 2 then
    if year % 4 = 0 && (year % 100 != 0 || year % 400 = 0) then 29 else 28
  else if month = 4 || month = 6 || month = 9 || month = 11 then 30 else 31

def afterDate? : List Char → Option (List Char)
  | a :: b :: c :: d :: '-' :: e :: f :: '-' :: g :: h :: cs =>
    match twoDigits? 0 99 a b, twoDigits? 0 99 c d, twoDigits? 1 12 e f with
    | some century, some year, some month =>
      (twoDigits? 1 (daysIn (100 * century + year) month) g h).map fun _ => cs
    | _, _, _ => none
  | _ => none

/-- What follows a time at the beginning of a text. Seconds and their fraction may be missing. -/
def afterTime? : List Char → Option (List Char)
  | a :: b :: ':' :: c :: d :: cs =>
    match twoDigits? 0 23 a b, twoDigits? 0 59 c d, cs with
    | some _, some _, ':' :: e :: f :: cs =>
      match twoDigits? 0 60 e f, cs with
      | some _, '.' :: g :: cs => if g.isDigit then some (cs.dropWhile Char.isDigit) else none
      | some _, cs => some cs
      | none, _ => none
    | some _, some _, cs => some cs
    | _, _, _ => none
  | _ => none

def isOffset : List Char → Bool
  | [c] => c == 'Z' || c == 'z'
  | sign :: a :: b :: ':' :: c :: d :: [] =>
    (sign == '+' || sign == '-') && (twoDigits? 0 23 a b).isSome && (twoDigits? 0 59 c d).isSome
  | _ => false

def isDateTime (cs : List Char) : Bool :=
  match afterDate? cs with
  | none => afterTime? cs == some []
  | some [] => true
  | some (mark :: cs) =>
    (mark == 'T' || mark == 't' || mark == ' ') &&
      match afterTime? cs with
      | none => false
      | some rest => rest.isEmpty || isOffset rest

/-! Words -/

def isWordChar (c : Char) : Bool :=
  c.isAlphanum || c == '_' || c == '-' || c == '+' || c == '.' || c == ':'

def ofWord? (word : List Char) : Option TomlValue :=
  if word == ['t', 'r', 'u', 'e'] then some (.boolean true)
  else if word == ['f', 'a', 'l', 's', 'e'] then some (.boolean false)
  else
    match integer? word with
    | some n => some (.integer n)
    | none => if isDateTime word then some .dateTime else float? word

/-- Splits off a word. A date and a time count as one word also with a space between them. -/
def splitWord (cs : List Char) : List Char × List Char :=
  let word := cs.takeWhile isWordChar
  let rest := cs.dropWhile isWordChar
  match rest with
  | ' ' :: c :: after =>
    if afterDate? word == some [] && c.isDigit then
      (word ++ ' ' :: (c :: after).takeWhile isWordChar, (c :: after).dropWhile isWordChar)
    else (word, rest)
  | _ => (word, rest)

def read (cs : List Char) : Option (TomlValue × List Char) :=
  match cs with
  | [] => none
  | c :: _ =>
    if c == '"' || c == '\x27' then (readText cs).map fun (_, rest) => (.text, rest)
    else
      let (word, rest) := splitWord cs
      (ofWord? word).map fun value => (value, rest)

end TomlScalar

end RegexInsight
