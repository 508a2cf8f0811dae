import Mathlib.Data.Nat.Init
import SqlComposer.Dialect.Literal

/-!
String literals as a database reads them. A reader takes a literal off the front of a text and
leaves what stands behind it. The literal of a text is read back as that text, whatever it quotes
and whatever follows, so that no value can end its own literal.
-/
namespace SqlComposer.Dialect

/-- Whether a character inside a literal escapes the next one: on MySQL, in its default mode, a
backslash does. -/
def escapesNext (dialect : Dialect) (c : Char) : Bool := dialect == mysql && c == '\\'

/-- What a backslash and the character behind it stand for. Before a wildcard the backslash stays,
for a pattern to read it. -/
def escapedMeaning : Char → List Char
  | '0' => [Char.ofNat 0]
  | 'b' => [Char.ofNat 8]
  | 't' => ['\t']
  | 'n' => ['\n']
  | 'r' => ['\r']
  | 'Z' => [Char.ofNat 26]
  | '%' => ['\\', '%']
  | '_' => ['\\', '_']
  | c => [c]

/-- Puts characters in front of those that have been read. -/
def readBehind (front : List Char) (read : List Char × List Char) : List Char × List Char :=
  (front ++ read.1, read.2)

/-- The characters of a literal up to its closing quote, and the text behind that quote. A doubled
quote is a quote, and a character that is escaped stands for its meaning. -/
def readQuoted? (dialect : Dialect) : List Char → Option (List Char × List Char)
  | [] => none
  | c :: chars =>
    if c = '\'' then
      match chars with
      | [] => some ([], [])
      | d :: later =>
        if d = '\'' then (readQuoted? dialect later).map (readBehind ['\''])
        else some ([], d :: later)
    else if dialect.escapesNext c then
      match chars with
      | [] => none
      | d :: later => (readQuoted? dialect later).map (readBehind (escapedMeaning d))
    else (readQuoted? dialect chars).map (readBehind [c])

/-- The characters that a literal at the front of a text stands for, and the text behind it. -/
def readLiteral? (dialect : Dialect) : List Char → Option (List Char × List Char)
  | [] => none
  | c :: chars => if c = '\'' then readQuoted? dialect chars else none

section

variable (dialect : Dialect)

theorem read_closing_quote {tail : List Char} (apart : tail.head? ≠ some '\'') :
    dialect.readQuoted? ('\'' :: tail) = some ([], tail) := by
  cases tail with
  | nil => rfl
  | cons d later =>
      have other : d ≠ '\'' := by simpa using apart
      rw [readQuoted?, if_pos rfl]
      exact if_neg other

theorem read_plain {c : Char} (other : c ≠ '\'') (unescaped : dialect.escapesNext c = false)
    (chars : List Char) :
    dialect.readQuoted? (c :: chars) = (dialect.readQuoted? chars).map (readBehind [c]) := by
  rw [readQuoted?.eq_def]
  simp only [if_neg other, unescaped, Bool.false_eq_true, if_false]

theorem escapes_next_iff (c : Char) :
    dialect.escapesNext c = true ↔ dialect = mysql ∧ c = '\\' := by
  simp [escapesNext]

/-- The characters that are doubled in a literal are its quotes and what would escape. -/
theorem quoted_char_eq (c : Char) :
    dialect.quotedChar c = if c = '\'' ∨ dialect.escapesNext c = true then [c, c] else [c] := by
  have escapes : (decide (c = '\\') && dialect.backslashEscapes) = dialect.escapesNext c := by
    cases dialect <;> simp [backslashEscapes, escapesNext, Bool.beq_eq_decide_eq]
  by_cases quote : c = '\''
  · rw [quotedChar, if_pos quote, if_pos (.inl quote), quote]
  · rw [quotedChar, if_neg quote, escapes]
    cases escaping : dialect.escapesNext c with
    | true =>
        obtain ⟨rfl, rfl⟩ := (dialect.escapes_next_iff c).mp escaping
        rfl
    | false => simp [quote]

theorem read_quoted_char (c : Char) (chars : List Char) :
    dialect.readQuoted? (dialect.quotedChar c ++ chars) =
      (dialect.readQuoted? chars).map (readBehind [c]) := by
  rw [quoted_char_eq]
  by_cases quote : c = '\''
  · rw [if_pos (.inl quote), quote]
    rfl
  · cases escaping : dialect.escapesNext c with
    | true =>
        obtain ⟨rfl, rfl⟩ := (dialect.escapes_next_iff c).mp escaping
        rfl
    | false =>
        rw [if_neg (by simp [quote])]
        exact dialect.read_plain quote escaping chars

theorem read_quoted_chars (chars : List Char) {tail : List Char}
    (apart : tail.head? ≠ some '\'') :
    dialect.readQuoted? (chars.flatMap dialect.quotedChar ++ '\'' :: tail) =
      some (chars, tail) := by
  induction chars with
  | nil => exact dialect.read_closing_quote apart
  | cons c chars ih =>
      rw [List.flatMap_cons, List.append_assoc, read_quoted_char, ih]
      rfl

theorem read_literal_chars (chars tail : List Char)
    (apart : tail.head? ≠ some '\'') :
    dialect.readLiteral? (dialect.quotedChars chars ++ tail) = some (chars, tail) := by
  have read := dialect.read_quoted_chars chars apart
  rw [quotedChars, List.cons_append, List.append_assoc]
  exact read

theorem read_text_literal (text : String) (tail : List Char)
    (apart : tail.head? ≠ some '\'') :
    dialect.readLiteral? ((dialect.textLiteral text).toList ++ tail) =
      some (text.toList, tail) := by
  rw [textLiteral, String.toList_ofList]
  exact dialect.read_literal_chars text.toList tail apart

theorem read_behind_eq_some {front held rest : List Char} {read? : Option (List Char × List Char)}
    (read : read?.map (readBehind front) = some (held, rest)) :
    ∃ inner, read? = some (inner, rest) := by
  obtain ⟨⟨inner, behind⟩, found, same⟩ := Option.map_eq_some_iff.mp read
  have rest_eq : behind = rest := congrArg Prod.snd same
  exact ⟨inner, by rw [found, rest_eq]⟩

theorem length_of_read_quoted {chars held rest : List Char}
    (read : dialect.readQuoted? chars = some (held, rest)) : rest.length < chars.length := by
  fun_induction readQuoted? dialect chars generalizing held rest with
  | case1 => cases read
  | case2 =>
      cases read
      exact Nat.zero_lt_one
  | case3 later ih =>
      obtain ⟨inner, found⟩ := read_behind_eq_some read
      exact Nat.lt_add_right 2 (ih found)
  | case4 d later other =>
      cases read
      exact Nat.lt_succ_self _
  | case5 => cases read
  | case6 c other escaping d later ih =>
      obtain ⟨inner, found⟩ := read_behind_eq_some read
      exact Nat.lt_add_right 2 (ih found)
  | case7 c chars other unescaped ih =>
      obtain ⟨inner, found⟩ := read_behind_eq_some read
      exact Nat.lt_succ_of_lt (ih found)

/-- What stands behind a literal is shorter than the text with it. -/
theorem length_of_read_literal {chars held rest : List Char}
    (read : dialect.readLiteral? chars = some (held, rest)) : rest.length < chars.length := by
  cases chars with
  | nil => cases read
  | cons c chars =>
      by_cases quote : c = '\''
      · rw [readLiteral?, if_pos quote] at read
        exact Nat.lt_succ_of_lt (dialect.length_of_read_quoted read)
      · rw [readLiteral?, if_neg quote] at read
        cases read

end

/-- The literals that stand in front of a closing parenthesis with commas between them, and the text
behind the parenthesis. -/
def readElements? (dialect : Dialect) (chars : List Char) :
    Option (List (List Char) × List Char) :=
  match _found : dialect.readLiteral? chars with
  | none => none
  | some (held, rest) =>
    match rest with
    | ',' :: ' ' :: later =>
      (readElements? dialect later).map fun (others, tail) => (held :: others, tail)
    | ')' :: tail => some ([held], tail)
    | _ => none
termination_by chars.length
decreasing_by
  have shorter := dialect.length_of_read_literal _found
  simp only [List.length_cons] at shorter
  omega

/-- The literals of a list in parentheses, and the text behind it. -/
def readList? (dialect : Dialect) : List Char → Option (List (List Char) × List Char)
  | '(' :: ')' :: tail => some ([], tail)
  | '(' :: chars => dialect.readElements? chars
  | _ => none

section

variable (dialect : Dialect)

/-- Behind the first literal of a list stands a comma or the closing parenthesis. -/
theorem read_behind_element {chars held rest : List Char}
    (read : dialect.readLiteral? chars = some (held, rest)) :
    dialect.readElements? chars =
      match rest with
      | ',' :: ' ' :: later =>
        (dialect.readElements? later).map fun (others, tail) => (held :: others, tail)
      | ')' :: tail => some ([held], tail)
      | _ => none := by
  rw [readElements?]
  split
  · next refused => rw [read] at refused; cases refused
  · next found =>
      rw [read] at found
      cases found
      rfl

theorem read_elements (text : String) (texts : List String) (tail : List Char) :
    dialect.readElements?
        ((Text.join ", " ((text :: texts).map dialect.textLiteral)).toList ++ ')' :: tail) =
      some ((text :: texts).map String.toList, tail) := by
  induction texts generalizing text with
  | nil =>
      have last := dialect.read_text_literal text (')' :: tail) (by simp)
      exact dialect.read_behind_element last
  | cons next texts ih =>
      have joined : (Text.join ", " ((text :: next :: texts).map dialect.textLiteral)).toList =
          (dialect.textLiteral text).toList ++ ',' :: ' ' ::
            (Text.join ", " ((next :: texts).map dialect.textLiteral)).toList := by
        simp [Text.join]
      have first := dialect.read_text_literal text
        (',' :: ' ' :: ((Text.join ", " ((next :: texts).map dialect.textLiteral)).toList ++
          ')' :: tail)) (by simp)
      rw [joined, List.append_assoc, List.cons_append, List.cons_append,
        dialect.read_behind_element first]
      simp only [ih]
      rfl

theorem read_list (texts : List String) (tail : List Char) :
    dialect.readList?
        (("(" ++ Text.join ", " (texts.map dialect.textLiteral) ++ ")").toList ++ tail) =
      some (texts.map String.toList, tail) := by
  cases texts with
  | nil => simp [readList?, Text.join]
  | cons text texts =>
      have read := dialect.read_elements text texts tail
      obtain ⟨inner, quoted⟩ : ∃ inner,
          (Text.join ", " ((text :: texts).map dialect.textLiteral)).toList = '\'' :: inner := by
        cases texts <;> exact ⟨_, by simp [Text.join, textLiteral, quotedChars]; rfl⟩
      rw [quoted] at read
      rw [String.toList_append, String.toList_append, quoted, List.append_assoc]
      exact read

end

/-- Whatever text a literal quotes and whatever follows it, reading takes off exactly the literal
and gives the text. So different texts have different literals, and a list of literals is read as
the list of their texts. -/
theorem text_literal_read_back (dialect : Dialect) :
    (∀ (text : String) (tail : List Char), tail.head? ≠ some '\'' →
      dialect.readLiteral? ((dialect.textLiteral text).toList ++ tail) =
        some (text.toList, tail)) ∧
    Function.Injective dialect.textLiteral ∧
    ∀ (texts : List String) (tail : List Char),
      dialect.readList? (((Value.list (texts.map .text)).literal dialect).toList ++ tail) =
        some (texts.map String.toList, tail) := by
  refine ⟨dialect.read_text_literal, ?_, ?_⟩
  · intro first second same
    have left := dialect.read_text_literal first [] (by decide)
    have right := dialect.read_text_literal second [] (by decide)
    rw [same, right, Option.some_inj, Prod.mk.injEq, String.toList_inj] at left
    exact left.1.symm
  · intro texts tail
    have written : (Value.list (texts.map .text)).literal dialect =
        "(" ++ Text.join ", " (texts.map dialect.textLiteral) ++ ")" := by
      rw [Value.literal, Value.literals_eq_map, List.map_map]
      rfl
    rw [written]
    exact dialect.read_list texts tail

/-- A text that would end its literal if nothing were escaped. -/
theorem backslash_and_quote_read_back :
    ") or 1 = 1".toList.head? ≠ some '\'' ∧
      mysql.readLiteral? ((mysql.textLiteral "a\\'").toList ++ ") or 1 = 1".toList) =
        some ("a\\'".toList, ") or 1 = 1".toList) := by
  have apart : ") or 1 = 1".toList.head? ≠ some '\'' := by decide
  exact ⟨apart, (text_literal_read_back mysql).1 "a\\'" ") or 1 = 1".toList apart⟩

end SqlComposer.Dialect
