import RegexInsight.TomlValue

/-! Configuration texts: keys with values, and headers that open tables. -/
namespace RegexInsight
namespace TomlDocument

open TomlScalar

abbrev Path := List String

def skipBlanks (cs : List Char) : List Char := cs.dropWhile isBlank

def skipGap (comment : Bool) : List Char → Option (List Char)
  | [] => some []
  | c :: cs =>
    if c == '\n' then skipGap false cs
    else if comment then if isForbidden c then none else skipGap true cs
    else if isBlank c then skipGap false cs
    else if c == '#' then skipGap true cs
    else some (c :: cs)

def endLine (comment : Bool) : List Char → Option (List Char)
  | [] => some []
  | c :: cs =>
    if c == '\n' then some cs
    else if comment then if isForbidden c then none else endLine true cs
    else if isBlank c then endLine false cs
    else if c == '#' then endLine true cs
    else none

def expect (x : Char) (cs : List Char) : Option (List Char) :=
  match skipBlanks cs with
  | [] => none
  | c :: cs => if c == x then some cs else none

def isKeyChar (c : Char) : Bool := c.isAlphanum || c == '_' || c == '-'

def readKey (cs : List Char) : Option (String × List Char) :=
  let key := cs.takeWhile isKeyChar
  if key.isEmpty then (readShort cs).map fun (key, rest) => (String.ofList key, rest)
  else some (String.ofList key, cs.dropWhile isKeyChar)

/-- Reads a dotted key of at most `fuel` further parts. `path` holds the parts so far. -/
def readPath (path : Path) : Nat → List Char → Option (Path × String × List Char)
  | 0, _ => none
  | fuel + 1, cs =>
    match readKey (skipBlanks cs) with
    | none => none
    | some (key, rest) =>
      match expect '.' rest with
      | some rest => readPath (path ++ [key]) fuel rest
      | none => some (path, key, rest)

def readDotted (cs : List Char) : Option (Path × String × List Char) :=
  readPath [] (cs.length + 1) cs

def readItems (read : List Char → Option (TomlValue × List Char)) (items : List TomlValue) :
    Nat → List Char → Option (TomlValue × List Char)
  | 0, _ => none
  | fuel + 1, cs =>
    match skipGap false cs with
    | none | some [] => none
    | some (']' :: rest) => some (.array false items, rest)
    | some cs =>
      match read cs with
      | none => none
      | some (item, rest) =>
        match skipGap false rest with
        | some (',' :: rest) => readItems read (items ++ [item]) fuel rest
        | some (']' :: rest) => some (.array false (items ++ [item]), rest)
        | _ => none

/-- Reads a dotted key and its value. `skip` steps over what may stand around the equals sign. -/
def readEntry (skip : List Char → Option (List Char))
    (read : List Char → Option (TomlValue × List Char)) (cs : List Char) :
    Option (Path × String × TomlValue × List Char) :=
  match readDotted cs with
  | none => none
  | some (path, key, rest) =>
    match skip rest with
    | some ('=' :: rest) =>
      ((skip rest).bind read).map fun (value, rest) => (path, key, value, rest)
    | _ => none

/-- Reads the entries of an inline table up to its closing brace. Line ends and comments may stand
everywhere but within a dotted key. -/
def readFields (read : List Char → Option (TomlValue × List Char)) (entries : TomlEntries) :
    Nat → List Char → Option (TomlValue × List Char)
  | 0, _ => none
  | fuel + 1, cs =>
    match skipGap false cs with
    | none | some [] => none
    | some ('\x7d' :: rest) => some (.table .inline entries, rest)
    | some cs =>
      match readEntry (skipGap false) read cs with
      | none => none
      | some (path, key, value, rest) =>
        match entries.addDotted? path key value .inline, skipGap false rest with
        | some entries, some (',' :: rest) => readFields read entries fuel rest
        | some entries, some ('\x7d' :: rest) => some (.table .inline entries, rest)
        | _, _ => none

def readValue : Nat → List Char → Option (TomlValue × List Char)
  | 0, cs => TomlScalar.read cs
  | depth + 1, cs =>
    match cs with
    | '[' :: rest => readItems (readValue depth) [] (rest.length + 1) rest
    | '\x7b' :: rest => readFields (readValue depth) [] (rest.length + 1) rest
    | cs => TomlScalar.read cs

def maxDepth : Nat := 80

structure State where
  root : TomlEntries
  header : Path

def readHeader (state : State) (cs : List Char) : Option (State × List Char) :=
  let ofTables := cs.head? = some '['
  match readDotted (if ofTables then cs.drop 1 else cs) with
  | none => none
  | some (path, key, rest) =>
    let opened := TomlEntries.changeAt? false
      (fun _ entries => if ofTables then entries.openItem? key else entries.openTable? key)
      .header state.root path
    match opened, expect ']' rest with
    | some root, some rest =>
      if !ofTables then some (⟨root, path ++ [key]⟩, rest)
      else if rest.head? = some ']' then some (⟨root, path ++ [key]⟩, rest.drop 1)
      else none
    | _, _ => none

def readStatement (state : State) (cs : List Char) : Option (State × List Char) :=
  match cs with
  | '[' :: rest => readHeader state rest
  | cs =>
    match readEntry (some ∘ skipBlanks) (readValue maxDepth) cs with
    | none => none
    | some (path, key, value, rest) =>
      let added := TomlEntries.changeAt? false
        (fun origin entries => entries.addDotted? path key value origin)
        .header state.root state.header
      added.map fun root => (⟨root, state.header⟩, rest)

def readStatements (state : State) : Nat → List Char → Option TomlEntries
  | 0, _ => none
  | fuel + 1, cs =>
    match skipGap false cs with
    | none => none
    | some [] => some state.root
    | some cs =>
      match readStatement state cs with
      | none => none
      | some (state, rest) =>
        match endLine false rest with
        | none => none
        | some rest => readStatements state fuel rest

/-- Turns each pair of carriage return and line feed into a line feed. -/
def unifyLineEnds : List Char → List Char
  | '\r' :: '\n' :: cs => '\n' :: unifyLineEnds cs
  | c :: cs => c :: unifyLineEnds cs
  | [] => []

/-- The entries of a configuration text. A byte order mark before it is skipped. -/
def read? (cs : List Char) : Option TomlEntries :=
  let cs := unifyLineEnds (if cs.head? = some '\ufeff' then cs.drop 1 else cs)
  readStatements ⟨[], []⟩ (cs.length + 1) cs

end TomlDocument
end RegexInsight
