import SqlComposer.Toml.Scalar

/-!
Quoted texts of TOML. Basic texts stand in double quotes and have escapes, literal texts stand in
single quotes and have none; both come in a form of one line and in one of several lines between
three quotes.
-/
namespace SqlComposer.Toml

def isSpace (c : Char) : Bool := c == ' ' || c == '\t'

/-- A character that may stand for itself in a text or a comment: anything but the control
characters other than the tab. -/
def isPlain (c : Char) : Bool := c == '\t' || (' ' ≤ c && c != '\x7f')

def afterLineBreak? : List Char → Option (List Char)
  | '\n' :: chars => some chars
  | '\r' :: '\n' :: chars => some chars
  | _ => none

def codePoint? (width : Nat) (chars : List Char) : Option Char :=
  let digits := chars.take width
  if digits.length = width ∧ digits.all isHexDigit then
    let code := numberOf 16 digits
    if code < 0xD800 ∨ (0xDFFF < code ∧ code < 0x110000) then some (Char.ofNat code) else none
  else none

/-- The character that an escape stands for and how many characters after the backslash it takes. -/
def escape? : List Char → Option (Char × Nat)
  | 'b' :: _ => some ('\x08', 1)
  | 't' :: _ => some ('\t', 1)
  | 'n' :: _ => some ('\n', 1)
  | 'f' :: _ => some ('\x0c', 1)
  | 'r' :: _ => some ('\r', 1)
  | 'e' :: _ => some ('\x1b', 1)
  | '"' :: _ => some ('"', 1)
  | '\\' :: _ => some ('\\', 1)
  | 'x' :: digits => (codePoint? 2 digits).map fun c => (c, 3)
  | 'u' :: digits => (codePoint? 4 digits).map fun c => (c, 5)
  | 'U' :: digits => (codePoint? 8 digits).map fun c => (c, 9)
  | _ => none

/-- A text and the characters after it. -/
abbrev Reading : Type := Option (List Char × List Char)

def Reading.cons (c : Char) (reading : Reading) : Reading :=
  reading.map fun (text, rest) => (c :: text, rest)

def basicLine (chars : List Char) : Reading :=
  match chars with
  | [] => none
  | '"' :: rest => some ([], rest)
  | '\\' :: rest =>
    match escape? rest with
    | some (c, taken) => (basicLine (rest.drop taken)).cons c
    | none => none
  | c :: rest => if isPlain c then (basicLine rest).cons c else none
termination_by chars.length
decreasing_by all_goals (simp only [List.length_cons, List.length_drop]; omega)

def literalLine : List Char → Reading
  | [] => none
  | '\'' :: rest => some ([], rest)
  | c :: rest => if isPlain c then (literalLine rest).cons c else none

def skipBlankLines : List Char → List Char
  | ' ' :: rest => skipBlankLines rest
  | '\t' :: rest => skipBlankLines rest
  | '\n' :: rest => skipBlankLines rest
  | '\r' :: '\n' :: rest => skipBlankLines rest
  | chars => chars

theorem length_skipBlankLines (chars : List Char) :
    (skipBlankLines chars).length ≤ chars.length := by
  fun_induction skipBlankLines chars <;> simp_all <;> omega

theorem length_afterLineBreak? {chars rest : List Char}
    (broken : afterLineBreak? chars = some rest) : rest.length < chars.length := by
  unfold afterLineBreak? at broken
  split at broken
  · cases broken
    simp
  · cases broken
    simp only [List.length_cons]
    omega
  · cases broken

/-- How many quotes of a run at the end of a text of several lines belong to the text, and how many
are taken altogether. A run of three to five ends the text. -/
def closingQuotes? (run : Nat) : Option (Nat × Nat) :=
  if run < 3 then none else some (min (run - 3) 2, min run 5)

def Reading.quotes (quote : Char) (count : Nat) (reading : Reading) : Reading :=
  reading.map fun (text, rest) => (List.replicate count quote ++ text, rest)

/-- The rest of a basic text of several lines, whose line breaks are kept as they are. A backslash
at the end of a line takes away the line break and all blanks and line breaks after it. -/
def basicLines (chars : List Char) : Reading :=
  match chars with
  | [] => none
  | '"' :: rest =>
    let run := 1 + (rest.takeWhile (· == '"')).length
    match closingQuotes? run with
    | some (kept, taken) =>
      some (List.replicate kept '"', rest.drop (taken - 1))
    | none => (basicLines (rest.drop (run - 1))).quotes '"' run
  | '\\' :: rest =>
    match escape? rest with
    | some (c, taken) => (basicLines (rest.drop taken)).cons c
    | none =>
      match _broken : afterLineBreak? (rest.dropWhile isSpace) with
      | some next => basicLines (skipBlankLines next)
      | none => none
  | '\r' :: '\n' :: rest => ((basicLines rest).cons '\n').cons '\r'
  | c :: rest => if c = '\n' || isPlain c then (basicLines rest).cons c else none
termination_by chars.length
decreasing_by
  · simp only [List.length_cons, List.length_drop]; omega
  · simp only [List.length_cons, List.length_drop]; omega
  · have broken := length_afterLineBreak? _broken
    have skipped := length_skipBlankLines next
    have dropped : (rest.dropWhile isSpace).length ≤ rest.length :=
      (List.dropWhile_sublist _).length_le
    simp only [List.length_cons]; omega
  · simp only [List.length_cons]; omega
  · simp

def literalLines (chars : List Char) : Reading :=
  match chars with
  | [] => none
  | '\'' :: rest =>
    let run := 1 + (rest.takeWhile (· == '\'')).length
    match closingQuotes? run with
    | some (kept, taken) =>
      some (List.replicate kept '\'', rest.drop (taken - 1))
    | none => (literalLines (rest.drop (run - 1))).quotes '\'' run
  | '\r' :: '\n' :: rest => ((literalLines rest).cons '\n').cons '\r'
  | c :: rest => if c = '\n' || isPlain c then (literalLines rest).cons c else none
termination_by chars.length
decreasing_by all_goals (simp only [List.length_cons, List.length_drop]; omega)

def dropFirstBreak (chars : List Char) : List Char :=
  (afterLineBreak? chars).getD chars

def quoted? : List Char → Reading
  | '"' :: '"' :: '"' :: rest => basicLines (dropFirstBreak rest)
  | '\'' :: '\'' :: '\'' :: rest => literalLines (dropFirstBreak rest)
  | '"' :: rest => basicLine rest
  | '\'' :: rest => literalLine rest
  | _ => none

def quotedKey? : List Char → Reading
  | '"' :: rest => basicLine rest
  | '\'' :: rest => literalLine rest
  | _ => none

end SqlComposer.Toml
