/-!
Marks inside a text: finding the first occurrence of a mark, cutting a text there, and putting a
replacement for every occurrence, from left to right and without overlap. Everything works on the
list of characters; the functions on `String` wrap those.
-/
namespace SqlComposer.Text

/-- What follows `mark` when the characters begin with it. -/
def afterMark? : List Char → List Char → Option (List Char)
  | [], chars => some chars
  | _ :: _, [] => none
  | m :: mark, c :: chars => if m = c then afterMark? mark chars else none

theorem afterMark?_eq_some_iff {mark chars rest : List Char} :
    afterMark? mark chars = some rest ↔ chars = mark ++ rest := by
  induction mark generalizing chars with
  | nil => simp [afterMark?]
  | cons m mark ih =>
    cases chars with
    | nil => simp [afterMark?]
    | cons c chars =>
      by_cases same : m = c
      · subst same; simp [afterMark?, ih]
      · simp [afterMark?, same, Ne.symm same]

/-- The characters before the first occurrence of `mark` and those after it. -/
def cutAt? (mark : List Char) : List Char → Option (List Char × List Char)
  | [] => (afterMark? mark []).map fun rest => ([], rest)
  | c :: chars =>
    match afterMark? mark (c :: chars) with
    | some rest => some ([], rest)
    | none => (cutAt? mark chars).map fun (before, after) => (c :: before, after)

theorem eq_of_cutAt? {mark chars before after : List Char}
    (cut : cutAt? mark chars = some (before, after)) : chars = before ++ mark ++ after := by
  induction chars generalizing before after with
  | nil =>
    simp only [cutAt?, Option.map_eq_some_iff, Prod.mk.injEq] at cut
    obtain ⟨rest, found, rfl, rfl⟩ := cut
    simpa using afterMark?_eq_some_iff.1 found
  | cons c chars ih =>
    simp only [cutAt?] at cut
    split at cut
    · next rest found =>
      simp only [Option.some.injEq, Prod.mk.injEq] at cut
      obtain ⟨rfl, rfl⟩ := cut
      simpa using afterMark?_eq_some_iff.1 found
    · simp only [Option.map_eq_some_iff, Prod.mk.injEq] at cut
      obtain ⟨⟨before', after'⟩, found, rfl, rfl⟩ := cut
      simp [ih found]

theorem length_of_cutAt? {mark chars before after : List Char}
    (cut : cutAt? mark chars = some (before, after)) :
    before.length + mark.length + after.length = chars.length := by
  rw [eq_of_cutAt? cut]; simp [Nat.add_assoc]

def hasMark (mark chars : List Char) : Bool :=
  (cutAt? mark chars).isSome

/-- Puts `replacement` for every occurrence of `mark` after the next `skipped` characters, which
belong to an occurrence that has been replaced. -/
def replaceFrom (mark replacement : List Char) : Nat → List Char → List Char
  | _, [] => []
  | skipped + 1, _ :: chars => replaceFrom mark replacement skipped chars
  | 0, c :: chars =>
    match afterMark? mark (c :: chars) with
    | some _ => replacement ++ replaceFrom mark replacement (mark.length - 1) chars
    | none => c :: replaceFrom mark replacement 0 chars

def replaceChars (mark replacement chars : List Char) : List Char :=
  replaceFrom mark replacement 0 chars

/-- Puts `replacement` for every occurrence of the non-empty `mark`. -/
def replace (text mark replacement : String) : String :=
  String.ofList (replaceChars mark.toList replacement.toList text.toList)

def splitAtChar? (separator : Char) (text : String) : Option (String × String) :=
  (cutAt? [separator] text.toList).map fun (before, after) =>
    (String.ofList before, String.ofList after)

/-- The pieces between the occurrences of a character, one more than there are occurrences. -/
def splitChars (separator : Char) : List Char → List (List Char)
  | [] => [[]]
  | c :: chars =>
    if c = separator then [] :: splitChars separator chars
    else
      match splitChars separator chars with
      | [] => [[c]]
      | piece :: pieces => (c :: piece) :: pieces

def splitOnChar (separator : Char) (text : String) : List String :=
  (splitChars separator text.toList).map String.ofList

def sameIgnoringCase (left right : String) : Bool :=
  left.toList.map Char.toLower == right.toList.map Char.toLower

def asciiLower (text : String) : String :=
  String.ofList (text.toList.map Char.toLower)

def join (separator : String) : List String → String
  | [] => ""
  | [text] => text
  | text :: rest => text ++ separator ++ join separator rest

end SqlComposer.Text
