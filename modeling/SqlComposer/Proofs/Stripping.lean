import SqlComposer.Proofs.Marks
import SqlComposer.Statement.Updating
import Mathlib.Tactic.SplitIfs

/-!
What the removal of a qualifier does to the parts of a text. Quoted parts, fixed words and names in
which the alias does not occur come out as they went in; a qualified column comes out bare. The
statements hold with any text behind the part, so that parts are put together one after another.
-/
namespace SqlComposer.Statement

open Text (afterMark? afterMark?_eq_some_iff hasMark)
open SubQuery (Silent after_mark_append has_mark_cons)

/-- The character that stands last after a part has been written. -/
def lastAfter : Option Char → List Char → Option Char
  | last?, [] => last?
  | _, c :: chars => lastAfter (some c) chars

theorem last_after_append (last? : Option Char) (first second : List Char) :
    lastAfter last? (first ++ second) = lastAfter (lastAfter last? first) second := by
  induction first generalizing last? with
  | nil => rfl
  | cons c chars ih => exact ih (some c)

/-- A text that does not go on with a character of a name. -/
def EndsName (tail : List Char) : Prop := tail.head?.any isNameChar = false

instance (tail : List Char) : Decidable (EndsName tail) :=
  inferInstanceAs (Decidable (tail.head?.any isNameChar = false))

theorem strip_skipped (qualifier chars tail : List Char) (last? : Option Char) (quoted : Bool) :
    stripFrom qualifier last? quoted chars.length (chars ++ tail) =
      stripFrom qualifier last? quoted 0 tail := by
  induction chars with
  | nil => rfl
  | cons c chars ih => rw [List.length_cons, List.cons_append, stripFrom, ih]

theorem strip_quote (qualifier tail : List Char) (last? : Option Char) (quoted : Bool) :
    stripFrom qualifier last? quoted 0 ('\'' :: tail) =
      '\'' :: stripFrom qualifier (some '\'') (!quoted) 0 tail := by
  rw [stripFrom, if_pos rfl]

theorem strip_inside_quotes {chars : List Char} (quoteless : '\'' ∉ chars)
    (qualifier tail : List Char) (last? : Option Char) :
    stripFrom qualifier last? true 0 (chars ++ tail) =
      chars ++ stripFrom qualifier (lastAfter last? chars) true 0 tail := by
  induction chars generalizing last? with
  | nil => rfl
  | cons c chars ih =>
      rw [List.mem_cons, not_or] at quoteless
      have kept : stripFrom qualifier last? true 0 (c :: (chars ++ tail)) =
          c :: stripFrom qualifier (some c) true 0 (chars ++ tail) := by
        rw [stripFrom, if_neg (Ne.symm quoteless.1)]
        rfl
      rw [List.cons_append, kept, ih quoteless.2]
      rfl

/-- Outside quotes a part comes out as it went in when the qualifier starts nowhere in it. -/
theorem strip_silent {qualifier tail chars : List Char} (silent : Silent qualifier tail chars)
    (quoteless : '\'' ∉ chars) (last? : Option Char) :
    stripFrom qualifier last? false 0 (chars ++ tail) =
      chars ++ stripFrom qualifier (lastAfter last? chars) false 0 tail := by
  induction chars generalizing last? with
  | nil => rfl
  | cons c chars ih =>
      rw [List.mem_cons, not_or] at quoteless
      have absent : afterMark? qualifier (c :: (chars ++ tail)) = none := silent.1
      have kept : stripFrom qualifier last? false 0 (c :: (chars ++ tail)) =
          c :: stripFrom qualifier (some c) false 0 (chars ++ tail) := by
        rw [stripFrom, if_neg (Ne.symm quoteless.1), absent]
        rfl
      rw [List.cons_append, kept, ih silent.2 quoteless.2]
      rfl

theorem strip_qualifier {first : Char} {inner : List Char} {last? : Option Char}
    (plain : first ≠ '\'') (free : last?.any isNameChar = false) (tail : List Char) :
    stripFrom (first :: inner) last? false 0 (first :: inner ++ tail) =
      stripFrom (first :: inner) last? false 0 tail := by
  have found := after_mark_append (first :: inner) tail
  rw [List.cons_append] at found ⊢
  rw [stripFrom, if_neg plain, found, free, ← strip_skipped (first :: inner) inner tail]
  rfl

/-- The alias of a base table: a word of letters and digits that starts in one of two ways. -/
structure BaseName (name : List Char) : Prop where
  word : ∀ c ∈ name, isNameChar c = true
  start : ∃ rest, name = 'd' :: 'f' :: rest ∨ name = 's' :: 'u' :: rest

theorem name_char_of_digit {c : Char} (digit : c.isDigit = true) : isNameChar c = true := by
  have bounds : 48 ≤ c.toNat ∧ c.toNat ≤ 57 := by
    simpa [Char.isDigit, UInt32.le_iff_toNat_le] using digit
  have category : Text.hasDigitCategory c = true := by
    rw [Text.hasDigitCategory, List.any_eq_true]
    exact ⟨48, by decide, by simp; omega⟩
  simp [isNameChar, Text.isAlphanumeric, category]

theorem base_alias_name (statement : Statement) : BaseName statement.baseAlias.toList := by
  unfold baseAlias
  cases statement.level with
  | zero => exact ⟨List.all_eq_true.mp (by decide +kernel), _, .inl rfl⟩
  | succ level =>
      have chars : ("sub" ++ toString (level + 1) ++ "loc").toList =
          ['s', 'u', 'b'] ++ (Nat.toDigits 10 (level + 1) ++ ['l', 'o', 'c']) := by
        simp [String.toList_append]
      have letters : ∀ c ∈ ['s', 'u', 'b'] ++ ['l', 'o', 'c'], isNameChar c = true :=
        List.all_eq_true.mp (by decide +kernel)
      refine ⟨?_, _, .inr chars⟩
      intro c member
      simp only [chars] at member
      rcases List.mem_append.mp member with letter | behind
      · exact letters c (List.mem_append_left _ letter)
      rcases List.mem_append.mp behind with digit | letter
      · exact name_char_of_digit (Nat.isDigit_of_mem_toDigits (by decide) (by decide) digit)
      · exact letters c (List.mem_append_right _ letter)

/-- Whether a fixed text has no quote and nothing in it, its end included, is how an alias of a base
table may start. -/
def isQuiet : List Char → Bool
  | [] => true
  | [c] => c != 'd' && c != 's' && c != '\''
  | c :: d :: rest =>
      !(c == 'd' && d == 'f') && !(c == 's' && d == 'u') && c != '\'' && isQuiet (d :: rest)

theorem quoteless_of_quiet {chars : List Char} (quiet : isQuiet chars = true) :
    '\'' ∉ chars := by
  fun_induction isQuiet chars with
  | case1 => simp
  | case2 c => simp at quiet ⊢; exact Ne.symm quiet.2
  | case3 c d rest ih =>
      simp only [Bool.and_eq_true, bne_iff_ne] at quiet
      rw [List.mem_cons, not_or]
      exact ⟨Ne.symm quiet.1.2, ih quiet.2⟩

theorem silent_of_quiet {name chars : List Char} (base : BaseName name)
    (quiet : isQuiet chars = true) (tail : List Char) :
    Silent (name ++ ['.']) tail chars := by
  obtain ⟨_, rest, start⟩ := base
  fun_induction isQuiet chars with
  | case1 => trivial
  | case2 c =>
      simp only [Bool.and_eq_true, bne_iff_ne] at quiet
      refine ⟨?_, trivial⟩
      rcases start with rfl | rfl
      · simp [afterMark?, Ne.symm quiet.1.1]
      · simp [afterMark?, Ne.symm quiet.1.2]
  | case3 c d chars ih =>
      simp only [Bool.and_eq_true, Bool.not_eq_true', Bool.and_eq_false_iff, beq_eq_false_iff_ne]
        at quiet
      refine ⟨?_, ih quiet.2⟩
      rcases start with rfl | rfl
      · rcases quiet.1.1.1 with first | second
        · simp [afterMark?, Ne.symm first]
        · simp [afterMark?, Ne.symm second]
      · rcases quiet.1.1.2 with first | second
        · simp [afterMark?, Ne.symm first]
        · simp [afterMark?, Ne.symm second]

theorem ends_name_append {first second : List Char} (left : EndsName first)
    (right : EndsName second) : EndsName (first ++ second) := by
  cases first with
  | nil => exact right
  | cons c chars => exact left

theorem ends_name_of_filled {first second : List Char} (filled : first ≠ [])
    (ends : EndsName first) : EndsName (first ++ second) := by
  cases first with
  | nil => exact absurd rfl filled
  | cons c chars => exact ends

/-- Inside a name in which the alias does not occur no qualifier starts, since the alias is a word
and the name ends where the text behind it begins. -/
theorem silent_of_name {name chars tail : List Char} (base : BaseName name)
    (absent : hasMark name chars = false) (ends : EndsName tail) :
    Silent (name ++ ['.']) tail chars := by
  induction chars with
  | nil => trivial
  | cons c chars ih =>
      obtain ⟨here, later⟩ := (has_mark_cons name c chars).mp absent
      refine ⟨?_, ih later⟩
      cases found : afterMark? (name ++ ['.']) (c :: chars ++ tail) with
      | none => rfl
      | some rest =>
          have whole := afterMark?_eq_some_iff.mp found
          rw [List.append_assoc] at whole
          rcases List.append_eq_append_iff.mp whole with ⟨excess, shape, behind⟩ | ⟨more, shape, _⟩
          · cases excess with
            | nil =>
                have itself := after_mark_append (c :: chars) []
                rw [List.append_nil] at shape itself
                rw [shape, itself] at here
                cases here
            | cons next excess =>
                have word := base.word next (by rw [shape]; simp)
                rw [EndsName, behind, List.cons_append, List.head?_cons, Option.any_some,
                  word] at ends
                cases ends
          · rw [shape, after_mark_append] at here
            cases here

/-- A part comes out as another one, before anything that does not lengthen a name. -/
def Rewrites (name text result : List Char) : Prop :=
  ∀ last? tail, EndsName tail →
    stripFrom (name ++ ['.']) last? false 0 (text ++ tail) =
      result ++ stripFrom (name ++ ['.']) (lastAfter last? result) false 0 tail

abbrev Verbatim (name text : List Char) : Prop := Rewrites name text text

/-- The same where the part itself does not lengthen a name either. -/
def Strips (name text result : List Char) : Prop :=
  ∀ last? tail, last?.any isNameChar = false → EndsName tail →
    stripFrom (name ++ ['.']) last? false 0 (text ++ tail) =
      result ++ stripFrom (name ++ ['.']) (lastAfter last? result) false 0 tail

section

variable {name : List Char}

theorem Rewrites.strips {text result : List Char} (rewrites : Rewrites name text result) :
    Strips name text result := fun last? tail _ ends => rewrites last? tail ends

theorem verbatim_of_quiet (base : BaseName name) {text : List Char} (quiet : isQuiet text = true) :
    Verbatim name text :=
  fun last? tail _ =>
    strip_silent (silent_of_quiet base quiet tail) (quoteless_of_quiet quiet) last?

theorem verbatim_of_name (base : BaseName name) {text : List Char}
    (absent : hasMark name text = false) (quoteless : '\'' ∉ text) : Verbatim name text :=
  fun last? _ ends => strip_silent (silent_of_name base absent ends) quoteless last?

theorem Rewrites.append {first second written behind : List Char}
    (left : Rewrites name first written) (right : Rewrites name second behind)
    (apart : EndsName second) : Rewrites name (first ++ second) (written ++ behind) := by
  intro last? tail ends
  rw [List.append_assoc, left last? _ (ends_name_append apart ends), right _ tail ends,
    last_after_append, List.append_assoc]

theorem Strips.append {first second written behind : List Char}
    (left : Strips name first written) (right : Rewrites name second behind)
    (apart : EndsName second) : Strips name (first ++ second) (written ++ behind) := by
  intro last? tail free ends
  rw [List.append_assoc, left last? _ free (ends_name_append apart ends), right _ tail ends,
    last_after_append, List.append_assoc]

/-- A fixed text needs nothing of what stands behind it. -/
theorem Rewrites.after_quiet (base : BaseName name) (fixed : List Char)
    {text result : List Char} (quiet : isQuiet fixed = true)
    (rewrites : Rewrites name text result) :
    Rewrites name (fixed ++ text) (fixed ++ result) := by
  intro last? tail ends
  rw [List.append_assoc, strip_silent (silent_of_quiet base quiet _) (quoteless_of_quiet quiet),
    rewrites _ tail ends, last_after_append, List.append_assoc]

/-- Behind a fixed text that ends no name it does not matter what stands before that text. -/
theorem Strips.after_quiet (base : BaseName name) (fixed : List Char)
    {text result : List Char} (quiet : isQuiet fixed = true)
    (closes : ∀ last?, (lastAfter last? fixed).any isNameChar = false)
    (strips : Strips name text result) : Rewrites name (fixed ++ text) (fixed ++ result) := by
  intro last? tail ends
  rw [List.append_assoc, strip_silent (silent_of_quiet base quiet _) (quoteless_of_quiet quiet),
    strips _ tail (closes last?) ends, last_after_append, List.append_assoc]

/-- A qualified column comes out bare. -/
theorem strips_qualified (base : BaseName name) {column : List Char}
    (absent : hasMark name column = false) (quoteless : '\'' ∉ column) :
    Strips name (name ++ ['.'] ++ column) column := by
  intro last? tail free ends
  have dropped : stripFrom (name ++ ['.']) last? false 0 (name ++ ['.'] ++ (column ++ tail)) =
      stripFrom (name ++ ['.']) last? false 0 (column ++ tail) := by
    obtain ⟨_, rest, rfl | rfl⟩ := base
    · exact strip_qualifier (by decide) free _
    · exact strip_qualifier (by decide) free _
  rw [List.append_assoc, dropped]
  exact verbatim_of_name base absent quoteless last? tail ends

end

end SqlComposer.Statement
