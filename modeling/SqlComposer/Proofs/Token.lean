import SqlComposer.Proofs.Stripping
import Mathlib.Data.List.TakeWhile
import Mathlib.Data.Nat.Init

/-!
Texts as words, quoted parts and single characters. In this reading of a text, taking away an alias
takes away the word and the point behind it, wherever the two stand side by side, and nothing else.
-/
namespace SqlComposer.Statement

open SubQuery (after_mark_append)
open Text (afterMark? afterMark?_eq_some_iff)

/-- A piece of a text. A quoted part keeps its quotes; two of them may stand side by side. -/
inductive Token where
  | word (chars : List Char)
  | quoted (chars : List Char)
  | symbol (c : Char)
  deriving DecidableEq

def Token.chars : Token → List Char
  | word chars => chars
  | quoted chars => chars
  | symbol c => [c]

/-- What is being read: a word or a quoted part has begun with the characters that are held. -/
inductive Lexing where
  | between
  | inWord (held : List Char)
  | inQuotes (held : List Char)

def lexFrom : Lexing → List Char → List Token
  | .between, [] => []
  | .inWord held, [] => [.word held]
  | .inQuotes held, [] => [.quoted held]
  | .between, c :: chars =>
    if c = '\'' then lexFrom (.inQuotes [c]) chars
    else if isNameChar c then lexFrom (.inWord [c]) chars
    else .symbol c :: lexFrom .between chars
  | .inWord held, c :: chars =>
    if c = '\'' then .word held :: lexFrom (.inQuotes [c]) chars
    else if isNameChar c then lexFrom (.inWord (held ++ [c])) chars
    else .word held :: .symbol c :: lexFrom .between chars
  | .inQuotes held, c :: chars =>
    if c = '\'' then .quoted (held ++ [c]) :: lexFrom .between chars
    else lexFrom (.inQuotes (held ++ [c])) chars

/-- The tokens of a text. Every quote opens or closes a quoted part. -/
def lex (chars : List Char) : List Token := lexFrom .between chars

theorem name_char_ne_quote {c : Char} (name : isNameChar c = true) : c ≠ '\'' := by
  rintro rfl
  revert name
  decide +kernel

theorem lex_in_word {word tail : List Char} (names : ∀ c ∈ word, isNameChar c = true)
    (ends : EndsName tail) (held : List Char) :
    lexFrom (.inWord held) (word ++ tail) = .word (held ++ word) :: lex tail := by
  induction word generalizing held with
  | nil =>
      rw [List.nil_append, List.append_nil]
      cases tail with
      | nil => rfl
      | cons c tail =>
          have other : isNameChar c = false := ends
          by_cases quote : c = '\''
          · simp only [lex, lexFrom, if_pos quote]
          · simp only [lex, lexFrom, if_neg quote, other, Bool.false_eq_true, if_false]
  | cons c word ih =>
      have name := names c List.mem_cons_self
      have later := ih (fun d member => names d (List.mem_cons_of_mem c member)) (held ++ [c])
      rw [List.cons_append, lexFrom, if_neg (name_char_ne_quote name), if_pos name, later,
        List.append_assoc]
      rfl

theorem lex_word {c : Char} {word tail : List Char}
    (names : ∀ d ∈ c :: word, isNameChar d = true) (ends : EndsName tail) :
    lex (c :: word ++ tail) = .word (c :: word) :: lex tail := by
  have name := names c List.mem_cons_self
  rw [List.cons_append, lex, lexFrom, if_neg (name_char_ne_quote name), if_pos name]
  exact lex_in_word (fun d member => names d (List.mem_cons_of_mem c member)) ends [c]

theorem lex_symbol {c : Char} (plain : c ≠ '\'') (other : isNameChar c = false)
    (tail : List Char) : lex (c :: tail) = .symbol c :: lex tail := by
  rw [lex, lexFrom, if_neg plain, other]
  rfl

theorem lex_in_quotes {inner : List Char} (quoteless : '\'' ∉ inner) (held tail : List Char) :
    lexFrom (.inQuotes held) (inner ++ '\'' :: tail) =
        .quoted (held ++ inner ++ ['\'']) :: lex tail ∧
      lexFrom (.inQuotes held) inner = [.quoted (held ++ inner)] := by
  induction inner generalizing held with
  | nil =>
      rw [List.append_nil]
      exact ⟨rfl, rfl⟩
  | cons c inner ih =>
      rw [List.mem_cons, not_or] at quoteless
      obtain ⟨closed, unclosed⟩ := ih quoteless.2 (held ++ [c])
      constructor
      · rw [List.cons_append, lexFrom, if_neg (Ne.symm quoteless.1), closed]
        simp
      · rw [lexFrom, if_neg (Ne.symm quoteless.1), unclosed]
        simp

/-- How a text falls apart into its tokens, one token after another. -/
inductive Lexes : List Char → List Token → Prop
  | nil : Lexes [] []
  | unclosed {inner : List Char} (quoteless : '\'' ∉ inner) :
      Lexes ('\'' :: inner) [.quoted ('\'' :: inner)]
  | quoted {inner tail : List Char} {tokens : List Token} (quoteless : '\'' ∉ inner)
      (rest : Lexes tail tokens) :
      Lexes ('\'' :: (inner ++ '\'' :: tail)) (.quoted ('\'' :: (inner ++ ['\''])) :: tokens)
  | word {c : Char} {chars tail : List Char} {tokens : List Token}
      (names : ∀ d ∈ c :: chars, isNameChar d = true) (ends : EndsName tail)
      (rest : Lexes tail tokens) : Lexes (c :: chars ++ tail) (.word (c :: chars) :: tokens)
  | symbol {c : Char} {tail : List Char} {tokens : List Token} (plain : c ≠ '\'')
      (other : isNameChar c = false) (rest : Lexes tail tokens) :
      Lexes (c :: tail) (.symbol c :: tokens)

theorem Lexes.lex_eq {chars : List Char} {tokens : List Token} (lexes : Lexes chars tokens) :
    lex chars = tokens := by
  induction lexes with
  | nil => rfl
  | unclosed quoteless => exact (lex_in_quotes quoteless ['\''] []).2
  | quoted quoteless _ ih =>
      rw [lex, lexFrom, if_pos rfl, (lex_in_quotes quoteless _ _).1, ih]
      rfl
  | word names ends _ ih => rw [lex_word names ends, ih]
  | symbol plain other _ ih => rw [lex_symbol plain other, ih]

theorem exists_lexes (chars : List Char) : ∃ tokens, Lexes chars tokens := by
  induction size : chars.length using Nat.strong_induction_on generalizing chars with
  | h count ih =>
      cases chars with
      | nil => exact ⟨[], .nil⟩
      | cons c chars =>
          rw [List.length_cons] at size
          by_cases quote : c = '\''
          · subst quote
            by_cases closed : '\'' ∈ chars
            · obtain ⟨inner, tail, rfl, quoteless⟩ := List.eq_append_cons_of_mem closed
              obtain ⟨tokens, lexes⟩ := ih tail.length (by simp at size; omega) tail rfl
              exact ⟨_, .quoted quoteless lexes⟩
            · exact ⟨_, .unclosed closed⟩
          · by_cases name : isNameChar c = true
            · have split := List.takeWhile_append_dropWhile (p := isNameChar) (l := chars)
              have shorter := (List.dropWhile_suffix isNameChar (l := chars)).length_le
              obtain ⟨tokens, lexes⟩ := ih _ (by omega) (chars.dropWhile isNameChar) rfl
              have names : ∀ d ∈ c :: chars.takeWhile isNameChar, isNameChar d = true := by
                intro d member
                rcases List.mem_cons.mp member with rfl | later
                · exact name
                · exact List.mem_takeWhile_imp later
              have ends : EndsName (chars.dropWhile isNameChar) := by
                have stops := List.head?_dropWhile_not isNameChar chars
                unfold EndsName
                cases found : (chars.dropWhile isNameChar).head? with
                | none => rfl
                | some d => simpa [found] using stops
              have whole := Lexes.word names ends lexes
              rw [List.cons_append, split] at whole
              exact ⟨_, whole⟩
            · rw [Bool.not_eq_true] at name
              obtain ⟨tokens, lexes⟩ := ih chars.length (by omega) chars rfl
              exact ⟨_, .symbol quote name lexes⟩

theorem lexes_lex (chars : List Char) : Lexes chars (lex chars) := by
  obtain ⟨tokens, lexes⟩ := exists_lexes chars
  rw [lexes.lex_eq]
  exact lexes

/-- Nothing of a text is lost in its tokens. -/
theorem chars_of_lex (chars : List Char) : (lex chars).flatMap Token.chars = chars := by
  have lexes := lexes_lex chars
  generalize lex chars = tokens at lexes
  induction lexes with
  | nil => rfl
  | unclosed _ => simp [Token.chars]
  | quoted _ _ ih | word _ _ _ ih | symbol _ _ _ ih => simp [Token.chars, ih]

/-- Takes away every word that is an alias, together with the point right behind it. -/
def dropQualifiers (name : List Char) : List Token → List Token
  | .word chars :: .symbol c :: rest =>
    if chars = name ∧ c = '.' then dropQualifiers name rest
    else .word chars :: dropQualifiers name (.symbol c :: rest)
  | token :: rest => token :: dropQualifiers name rest
  | [] => []

theorem drop_other {name : List Char} {token : Token} (other : token ≠ .word name)
    (rest : List Token) :
    dropQualifiers name (token :: rest) = token :: dropQualifiers name rest := by
  cases token with
  | word chars =>
      cases rest with
      | nil => rfl
      | cons next rest =>
          cases next with
          | symbol c =>
              have different : ¬ (chars = name ∧ c = '.') := by
                rintro ⟨rfl, _⟩
                exact other rfl
              rw [dropQualifiers, if_neg different]
          | word _ | quoted _ => rfl
  | quoted _ | symbol _ => rfl

theorem drop_without_point {name : List Char} {rest : List Token}
    (pointless : ∀ later, rest ≠ .symbol '.' :: later) :
    dropQualifiers name (.word name :: rest) = .word name :: dropQualifiers name rest := by
  cases rest with
  | nil => rfl
  | cons next rest =>
      cases next with
      | symbol c =>
          have different : ¬ (name = name ∧ c = '.') := by
            rintro ⟨_, rfl⟩
            exact pointless rest rfl
          rw [dropQualifiers, if_neg different]
      | word _ | quoted _ => rfl

/-- Where no name goes on it does not matter what stands before. -/
theorem strip_after_any (qualifier : List Char) {last? other? : Option Char}
    (free : last?.any isNameChar = false) (alsoFree : other?.any isNameChar = false)
    (skipped : Nat) (chars : List Char) :
    stripFrom qualifier last? false skipped chars =
      stripFrom qualifier other? false skipped chars := by
  induction chars generalizing skipped with
  | nil => cases skipped <;> rfl
  | cons c chars ih =>
      cases skipped with
      | zero => rw [stripFrom, stripFrom, free, alsoFree, ih]
      | succ skipped => exact ih skipped

section

variable {name : List Char} (names : ∀ c ∈ name, isNameChar c = true)

/-- Inside a word no qualifier is looked for. -/
theorem strip_in_word (qualifier : List Char) {word : List Char}
    (wordNames : ∀ c ∈ word, isNameChar c = true) {last : Char} (inside : isNameChar last = true)
    (tail : List Char) :
    stripFrom qualifier (some last) false 0 (word ++ tail) =
      word ++ stripFrom qualifier (lastAfter (some last) word) false 0 tail := by
  induction word generalizing last with
  | nil => rfl
  | cons c word ih =>
      have name := wordNames c List.mem_cons_self
      have kept := ih (fun d member => wordNames d (List.mem_cons_of_mem c member)) name
      rw [List.cons_append, stripFrom, if_neg (name_char_ne_quote name), Option.any_some, inside,
        kept]
      simp [lastAfter]

include names

/-- At the start of a word that is not the alias, or has no point behind it, no qualifier starts. -/
theorem no_qualifier_at_word {c : Char} {word tail : List Char}
    (wordNames : ∀ d ∈ c :: word, isNameChar d = true) (ends : EndsName tail)
    (other : ¬ (c :: word = name ∧ tail.head? = some '.')) :
    afterMark? (name ++ ['.']) (c :: word ++ tail) = none := by
  cases found : afterMark? (name ++ ['.']) (c :: word ++ tail) with
  | none => rfl
  | some rest =>
      have whole := afterMark?_eq_some_iff.mp found
      rw [List.append_assoc] at whole
      rcases List.append_eq_append_iff.mp whole with
        ⟨excess, shape, behind⟩ | ⟨excess, shape, behind⟩
      · cases excess with
        | nil =>
            rw [List.append_nil] at shape
            rw [List.nil_append] at behind
            exact absurd ⟨shape.symm, by rw [behind]; rfl⟩ other
        | cons next excess =>
            have name := names next (by rw [shape]; simp)
            rw [EndsName, behind, List.cons_append, List.head?_cons, Option.any_some, name] at ends
            cases ends
      · cases excess with
        | nil =>
            rw [List.append_nil] at shape
            rw [List.nil_append] at behind
            exact absurd ⟨shape, by rw [← behind]; rfl⟩ other
        | cons next excess =>
            obtain ⟨rfl, _⟩ := List.cons.inj behind
            have point : isNameChar '.' = false := by decide +kernel
            rw [wordNames '.' (by rw [shape]; simp)] at point
            cases point

theorem no_qualifier_at_symbol (filled : name ≠ []) {c : Char} (other : isNameChar c = false)
    (chars : List Char) : afterMark? (name ++ ['.']) (c :: chars) = none := by
  cases name with
  | nil => exact absurd rfl filled
  | cons first rest =>
      have different : first ≠ c := by
        rintro rfl
        rw [names first List.mem_cons_self] at other
        cases other
      simp [afterMark?, different]

theorem strip_symbol (filled : name ≠ []) {c : Char} (plain : c ≠ '\'')
    (other : isNameChar c = false) (chars : List Char) (last? : Option Char) :
    stripFrom (name ++ ['.']) last? false 0 (c :: chars) =
      c :: stripFrom (name ++ ['.']) (some c) false 0 chars := by
  rw [stripFrom, if_neg plain, no_qualifier_at_symbol names filled other]
  rfl

theorem strip_ends_name (filled : name ≠ []) {tail : List Char} (ends : EndsName tail)
    (last? : Option Char) : EndsName (stripFrom (name ++ ['.']) last? false 0 tail) := by
  cases tail with
  | nil => rfl
  | cons c tail =>
      have other : isNameChar c = false := ends
      by_cases quote : c = '\''
      · rw [quote, strip_quote]
        rw [quote] at ends
        exact ends
      · rw [strip_symbol names filled quote other]
        exact ends

theorem strip_word {c : Char} {word tail : List Char}
    (wordNames : ∀ d ∈ c :: word, isNameChar d = true) (ends : EndsName tail)
    (other : ¬ (c :: word = name ∧ tail.head? = some '.')) (last? : Option Char) :
    ∃ last, stripFrom (name ++ ['.']) last? false 0 (c :: word ++ tail) =
      c :: word ++ stripFrom (name ++ ['.']) last false 0 tail := by
  have inside := wordNames c List.mem_cons_self
  have absent := no_qualifier_at_word names wordNames ends other
  have kept := strip_in_word (name ++ ['.'])
    (fun d member => wordNames d (List.mem_cons_of_mem c member)) inside tail
  refine ⟨lastAfter (some c) word, ?_⟩
  rw [List.cons_append] at absent
  rw [List.cons_append, stripFrom, if_neg (name_char_ne_quote inside), absent, kept]
  rfl

theorem strip_alias_word {tail : List Char} (filled : name ≠ []) {last? : Option Char}
    (free : last?.any isNameChar = false) :
    stripFrom (name ++ ['.']) last? false 0 (name ++ '.' :: tail) =
      stripFrom (name ++ ['.']) last? false 0 tail := by
  cases name with
  | nil => exact absurd rfl filled
  | cons first inner =>
      have plain := name_char_ne_quote (names first List.mem_cons_self)
      have dropped : stripFrom (first :: (inner ++ ['.'])) last? false 0
          (first :: (inner ++ ['.']) ++ tail) = _ := strip_qualifier plain free tail
      simpa using dropped

/-- The alias and the point behind it go, where what begins with the point is known already. -/
theorem lex_strip_alias_word (filled : name ≠ []) {behind : List Char}
    (later : ∀ last?, lex (stripFrom (name ++ ['.']) last? false 0 ('.' :: behind)) =
      dropQualifiers name (lex ('.' :: behind)))
    {last? : Option Char} (free : last?.any isNameChar = false) :
    lex (stripFrom (name ++ ['.']) last? false 0 (name ++ '.' :: behind)) =
      dropQualifiers name (.word name :: lex ('.' :: behind)) := by
  have point : isNameChar '.' = false := by decide +kernel
  have afterPoint : (some '.').any isNameChar = false := point
  have inner : lex (stripFrom (name ++ ['.']) (some '.') false 0 behind) =
      dropQualifiers name (lex behind) := by
    have pointed := later none
    rw [strip_symbol names filled (by decide) point, lex_symbol (by decide) point,
      lex_symbol (by decide) point, drop_other (by simp)] at pointed
    exact (List.cons.inj pointed).2
  rw [strip_alias_word names filled free, strip_after_any _ free afterPoint, inner,
    lex_symbol (by decide) point, dropQualifiers, if_pos ⟨rfl, rfl⟩]

theorem lex_strip_other_word (filled : name ≠ []) {c : Char} {word tail : List Char}
    (wordNames : ∀ d ∈ c :: word, isNameChar d = true) (ends : EndsName tail)
    (other : ¬ (c :: word = name ∧ tail.head? = some '.'))
    (later : ∀ last?, lex (stripFrom (name ++ ['.']) last? false 0 tail) =
      dropQualifiers name (lex tail)) (last? : Option Char) :
    lex (stripFrom (name ++ ['.']) last? false 0 (c :: word ++ tail)) =
      dropQualifiers name (.word (c :: word) :: lex tail) := by
  obtain ⟨last, kept⟩ := strip_word names wordNames ends other last?
  rw [kept, lex_word wordNames (strip_ends_name names filled ends last), later]
  by_cases same : c :: word = name
  · rw [same]
    refine (drop_without_point ?_).symm
    intro behind pointed
    have written := chars_of_lex tail
    rw [pointed] at written
    exact other ⟨same, by rw [← written]; rfl⟩
  · rw [drop_other (by simpa using same)]

/-- Outside of a word the removal does to the text what it does to the tokens. -/
theorem lex_strip_from (filled : name ≠ []) (chars : List Char) (last? : Option Char)
    (apart : last?.any isNameChar = false ∨ EndsName chars) :
    lex (stripFrom (name ++ ['.']) last? false 0 chars) = dropQualifiers name (lex chars) := by
  have lexes := lexes_lex chars
  generalize lex chars = tokens at lexes
  induction lexes generalizing last? with
  | nil => rfl
  | @unclosed inner quoteless =>
      have inside := strip_inside_quotes quoteless (name ++ ['.']) [] (some '\'')
      rw [List.append_nil, stripFrom, List.append_nil] at inside
      rw [strip_quote]
      change lex ('\'' :: stripFrom _ _ true 0 inner) = _
      rw [inside, (Lexes.unclosed quoteless).lex_eq]
      rfl
  | @quoted inner tail tokens quoteless rest ih =>
      have inside := strip_inside_quotes quoteless (name ++ ['.']) ('\'' :: tail) (some '\'')
      have later := ih (some '\'') (.inl rfl)
      rw [strip_quote]
      change lex ('\'' :: stripFrom _ _ true 0 (inner ++ '\'' :: tail)) = _
      rw [inside, strip_quote]
      change lex ('\'' :: (inner ++ '\'' :: stripFrom _ _ false 0 tail)) = _
      rw [(Lexes.quoted quoteless (lexes_lex _)).lex_eq, later, drop_other (by simp)]
  | @word c word tail tokens wordNames ends rest ih =>
      have later := fun last? => ih last? (.inr ends)
      rw [← rest.lex_eq] at later ⊢
      by_cases dropped : c :: word = name ∧ tail.head? = some '.'
      · obtain ⟨whole, point⟩ := dropped
        obtain ⟨behind, rfl⟩ := List.head?_eq_some_iff.mp point
        have free : last?.any isNameChar = false := by
          rcases apart with free | starts
          · exact free
          · have first : isNameChar c = false := starts
            rw [wordNames c List.mem_cons_self] at first
            cases first
        rw [whole]
        exact lex_strip_alias_word names filled later free
      · exact lex_strip_other_word names filled wordNames ends dropped later last?
  | @symbol c tail tokens plain other rest ih =>
      have later := ih (some c) (.inl other)
      rw [strip_symbol names filled plain other, lex_symbol plain other, later,
        drop_other (by simp)]

end

/-- Taking the alias of the base table away from a text takes it away from the tokens. -/
theorem lex_strip_alias {aliasName : String} (base : BaseName aliasName.toList) (text : String) :
    lex (stripAlias aliasName text).toList = dropQualifiers aliasName.toList (lex text.toList) := by
  have filled : aliasName.toList ≠ [] := by
    obtain ⟨_, rest, start⟩ := base
    rcases start with shape | shape <;> simp [shape]
  have stripped := lex_strip_from base.word filled text.toList none (.inl rfl)
  rw [stripAlias, String.toList_ofList, String.toList_append]
  exact stripped

end SqlComposer.Statement
