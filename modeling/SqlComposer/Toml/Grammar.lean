import SqlComposer.Toml.Node
import SqlComposer.Toml.Quoted

/-!
Keys, values and lines of TOML. Every function reads from the start of the characters and gives
what is left. Values nest at most 80 deep. The functions that read values stop after as many steps
as there are characters, which every step takes at least one of.
-/
namespace SqlComposer.Toml

def nestingLimit : Nat := 80

def keyLimit : Nat := 80

def isBareKeyChar (c : Char) : Bool :=
  ('a' ≤ c && c ≤ 'z') || ('A' ≤ c && c ≤ 'Z') || isDigit c || c == '_' || c == '-'

/-- A character of a value without quotes: anything that neither separates values nor starts a
comment. -/
def isScalarChar (c : Char) : Bool := !("=,[]\x7b\x7d \t#\r\n".toList.contains c)

def skipSpaces (chars : List Char) : List Char := chars.dropWhile isSpace

/-- The characters after a comment, if there is one. A comment holds no control characters. -/
def skipComment? : List Char → Option (List Char)
  | '#' :: rest =>
    let after := rest.dropWhile isPlain
    if after.isEmpty || (afterLineBreak? after).isSome then some after else none
  | chars => some chars

/-- The characters from the first one on that is not part of blanks, line breaks or comments.
`inComment` tells whether the characters continue a comment. -/
def skipFrom? (inComment : Bool) : List Char → Option (List Char)
  | [] => some []
  | '\n' :: rest => skipFrom? false rest
  | '\r' :: '\n' :: rest => skipFrom? false rest
  | c :: rest =>
    if inComment then (if isPlain c then skipFrom? true rest else none)
    else if isSpace c then skipFrom? false rest
    else if c = '#' then skipFrom? true rest
    else some (c :: rest)

def skipAll? (chars : List Char) : Option (List Char) := skipFrom? false chars

/-- What comes after an equals sign in an inline table. Line breaks and comments may stand on either
side of it. -/
def assigned? (chars : List Char) : Option (List Char) :=
  match skipAll? chars with
  | some ('=' :: rest) => skipAll? rest
  | _ => none

def simpleKey? (chars : List Char) : Option (String × List Char) :=
  match chars with
  | '"' :: _ | '\'' :: _ => (quotedKey? chars).map fun (key, rest) => (String.ofList key, rest)
  | _ =>
    let key := chars.takeWhile isBareKeyChar
    if key.isEmpty then none
    else some (String.ofList key, chars.dropWhile isBareKeyChar)

/-- Keys with dots between them, up to a number of them: those before the last one, and the last
one. -/
def dottedKey? : Nat → List Char → Option (List String × String × List Char)
  | 0, _ => none
  | limit + 1, chars =>
    match simpleKey? (skipSpaces chars) with
    | none => none
    | some (key, rest) =>
      match skipSpaces rest with
      | '.' :: rest =>
        (dottedKey? limit rest).map fun (path, last, rest) => (key :: path, last, rest)
      | rest => some ([], key, rest)

def key? (chars : List Char) : Option (List String × String × List Char) :=
  dottedKey? keyLimit chars

def isDay (chars : List Char) : Bool :=
  match date? chars with
  | some (_, []) => true
  | _ => false

/-- A value without quotes. A day and a time of day may have one space between them. -/
def unquoted? (chars : List Char) : Option (Value × List Char) :=
  let word := chars.takeWhile isScalarChar
  let rest := chars.dropWhile isScalarChar
  match isDay word, rest with
  | true, ' ' :: c :: after =>
    if isDigit c then
      let time := (c :: after).takeWhile isScalarChar
      (scalar? (word ++ ' ' :: time)).map fun value =>
        (value, (c :: after).dropWhile isScalarChar)
    else (scalar? word).map fun value => (value, rest)
  | _, _ => (scalar? word).map fun value => (value, rest)

mutual

/-- A value inside `depth` more levels of nesting at most. -/
def value? : Nat → Nat → List Char → Option (Node × List Char)
  | 0, _, _ => none
  | fuel + 1, depth, chars =>
    match chars with
    | '[' :: rest =>
      match depth with
      | 0 => none
      | depth + 1 =>
        (items? fuel depth rest).map fun (items, rest) => (.array items, rest)
    | '\x7b' :: rest =>
      match depth with
      | 0 => none
      | depth + 1 =>
        (members? fuel depth [] rest).map fun (entries, rest) => (.table .braces entries, rest)
    | '"' :: _ | '\'' :: _ =>
      (quoted? chars).map fun (text, rest) => (.leaf (.text (String.ofList text)), rest)
    | _ => (unquoted? chars).map fun (value, rest) => (.leaf value, rest)

/-- The rest of an array. A comma may follow the last item. -/
def items? : Nat → Nat → List Char → Option (List Node × List Char)
  | 0, _, _ => none
  | fuel + 1, depth, chars =>
    match skipAll? chars with
    | none => none
    | some (']' :: rest) => some ([], rest)
    | some chars =>
      match value? fuel depth chars with
      | none => none
      | some (item, rest) =>
        match skipAll? rest with
        | some (',' :: rest) =>
          (items? fuel depth rest).map fun (items, rest) => (item :: items, rest)
        | some (']' :: rest) => some ([item], rest)
        | _ => none

/-- The rest of an inline table with the entries read so far. A comma may follow the last entry. -/
def members? : Nat → Nat → Entries → List Char → Option (Entries × List Char)
  | 0, _, _, _ => none
  | fuel + 1, depth, entries, chars =>
    match skipAll? chars with
    | none => none
    | some ('\x7d' :: rest) => some (entries, rest)
    | some chars =>
      match key? chars with
      | none => none
      | some (path, key, rest) =>
        match assigned? rest with
        | none => none
        | some rest =>
          match value? fuel depth rest with
          | none => none
          | some (node, rest) =>
            match Entries.add .braces entries path key node, skipAll? rest with
            | some entries, some (',' :: rest) => members? fuel depth entries rest
            | some entries, some ('\x7d' :: rest) => some (entries, rest)
            | _, _ => none

end

inductive Line where
  | header (inArray : Bool) (path : List String) (key : String)
  | entry (path : List String) (key : String) (node : Node)

def lineEnd? (chars : List Char) : Option (List Char) :=
  match skipComment? (skipSpaces chars) with
  | some [] => some []
  | some rest => afterLineBreak? rest
  | none => none

def header? (inArray : Bool) (chars : List Char) : Option (Line × List Char) :=
  match key? chars with
  | none => none
  | some (path, key, rest) =>
    match inArray, rest with
    | true, ']' :: ']' :: rest => (lineEnd? rest).map fun rest => (.header true path key, rest)
    | false, ']' :: rest => (lineEnd? rest).map fun rest => (.header false path key, rest)
    | _, _ => none

def line? (chars : List Char) : Option (Line × List Char) :=
  match chars with
  | '[' :: '[' :: rest => header? true rest
  | '[' :: rest => header? false rest
  | _ =>
    match key? chars with
    | some (path, key, '=' :: rest) =>
      match value? (rest.length + 1) nestingLimit (skipSpaces rest) with
      | some (node, rest) => (lineEnd? rest).map fun rest => (.entry path key node, rest)
      | none => none
    | _ => none

def lines? : Nat → List Char → Option (List Line)
  | 0, _ => none
  | fuel + 1, chars =>
    match skipAll? chars with
    | none => none
    | some [] => some []
    | some chars =>
      match line? chars with
      | none => none
      | some (line, rest) => (lines? fuel rest).map (line :: ·)

end SqlComposer.Toml
