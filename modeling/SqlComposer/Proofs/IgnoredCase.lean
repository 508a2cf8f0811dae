import SqlComposer.Proofs.LikePredicate
import Mathlib.Tactic.SplitIfs

/-!
Like comparisons that ignore case. The database puts the column and the pattern in lower case, but
not the escape character that is named behind them. If that is no letter, the lowered pattern is the
pattern of the lowered text. A letter escapes nothing any more when it was an upper case one, and
too much when it was a lower case one.
-/
namespace SqlComposer.Condition

/-- Whether a comparison holds for a subject, if the database can carry it out: one character has to
escape. -/
def LikeReading.truth? (reading : LikeReading) (subject : List Char) : Option Bool :=
  let folded : List Char → List Char := if reading.lowers then List.map Char.toLower else id
  match reading.escape with
  | [escape] =>
    (like? escape (folded reading.pattern) (folded subject)).map fun likes =>
      if reading.key = .notLikeSearch then !likes else likes
  | _ => none

/-- Whether a like comparison of a column holds where the column has a subject. -/
def holdsFor (dialect : Dialect) (column predicate : String) (subject : List Char) : Bool :=
  match readLike? dialect column predicate.toList with
  | some (reading, []) => reading.truth? subject == some true
  | _ => false

theorem relates_self (mode : LikeMode) (chars : List Char) : mode.Relates chars chars := by
  cases mode with
  | start => exact List.prefix_refl chars
  | finish => exact List.suffix_refl chars
  | contain => exact List.infix_refl chars
  | exact => rfl

/-- What holds of the letters of an alphabet by their places holds of each character among them. -/
theorem holds_of_places {P : Char → Prop} {first : Nat}
    (holds : ∀ place < 26, P (Char.ofNat (first + place))) {c : Char} (low : first ≤ c.toNat)
    (high : c.toNat ≤ first + 25) : P c := by
  have found := holds (c.toNat - first) (by omega)
  rwa [Nat.add_sub_cancel' low, Char.ofNat_toNat] at found

theorem lowered_upper {c : Char} (upper : c.isUpper = true) :
    c.toLower.isAlpha = true ∧ c.toLower ≠ c := by
  obtain ⟨low, high⟩ : 65 ≤ c.val ∧ c.val ≤ 90 := of_decide_eq_true upper
  rw [UInt32.le_iff_toNat_le] at low high
  apply holds_of_places _ low high
  decide

theorem raised_lower {c : Char} (lower : c.isLower = true) :
    c.toUpper.isAlpha = true ∧ c.toUpper ≠ c ∧ c.toUpper.toLower = c := by
  obtain ⟨low, high⟩ := Bool.and_eq_true_iff.mp lower
  have first : 97 ≤ c.val := of_decide_eq_true low
  have last : c.val ≤ 122 := of_decide_eq_true high
  rw [UInt32.le_iff_toNat_le] at first last
  apply holds_of_places _ first last
  decide

theorem lower_of_not_upper {c : Char} (other : c.isUpper = false) : c.toLower = c :=
  dif_neg (of_decide_eq_false other)

/-- Nothing but a character itself has the lower case of that character, if it is no letter. -/
theorem lower_eq_iff {other : Char} (unlettered : other.isAlpha = false) (c : Char) :
    c.toLower = other ↔ c = other := by
  cases upper : c.isUpper with
  | false => rw [lower_of_not_upper upper]
  | true =>
      have letter : c.isAlpha = true := Bool.or_eq_true_iff.mpr (.inl upper)
      constructor
      · rintro rfl
        rw [(lowered_upper upper).1] at unlettered
        cases unlettered
      · rintro rfl
        rw [letter] at unlettered
        cases unlettered

theorem lower_of_no_letter {c : Char} (unlettered : c.isAlpha = false) : c.toLower = c :=
  (lower_eq_iff unlettered c).mpr rfl

theorem lower_wildcards (mode : LikeMode) :
    mode.leading.map Char.toLower = mode.leading ∧
      mode.trailing.map Char.toLower = mode.trailing := by
  cases mode <;> decide

section

variable {option : LikeOption}

theorem lowered_escaped_char (unlettered : option.escape.isAlpha = false) (c : Char) :
    (option.escapedChar c).map Char.toLower = option.escapedChar c.toLower := by
  have percent : c.toLower = '%' ↔ c = '%' := lower_eq_iff (by decide) c
  have underscore : c.toLower = '_' ↔ c = '_' := lower_eq_iff (by decide) c
  unfold LikeOption.escapedChar
  simp only [lower_eq_iff unlettered, percent, underscore]
  split_ifs
  · rw [List.map_cons, List.map_singleton, lower_of_no_letter unlettered]
  · rfl

/-- Putting a pattern in lower case is the same as searching for the text in lower case, as long as
no letter escapes. -/
theorem lowered_pattern (unlettered : option.escape.isAlpha = false) (chars : List Char) :
    (option.patternChars chars).map Char.toLower =
      option.patternChars (chars.map Char.toLower) := by
  have inner : (chars.flatMap option.escapedChar).map Char.toLower =
      (chars.map Char.toLower).flatMap option.escapedChar := by
    rw [List.map_flatMap, List.flatMap_map]
    simp only [lowered_escaped_char unlettered]
  rw [LikeOption.patternChars, List.map_append, List.map_append, inner,
    (lower_wildcards option.mode).1, (lower_wildcards option.mode).2]
  rfl

theorem no_wildcard_of_letter {c : Char} (letter : c.isAlpha = true) : c ≠ '%' ∧ c ≠ '_' := by
  constructor <;> rintro rfl <;> revert letter <;> decide

/-- An upper case letter that escapes is no longer one in the lowered pattern, so that a wildcard of
the text is a wildcard of the pattern. -/
theorem unlike_of_upper (upper : option.escape.isUpper = true) :
    like? option.escape ((option.patternChars ['%']).map Char.toLower) ['%'] ≠ some true := by
  have letter : option.escape.isAlpha = true := Bool.or_eq_true_iff.mpr (.inl upper)
  obtain ⟨lowered, changed⟩ := lowered_upper upper
  have written : (option.patternChars ['%']).map Char.toLower =
      option.mode.leading ++ (option.escape.toLower :: '%' :: option.mode.trailing) := by
    simp [LikeOption.patternChars, LikeOption.escapedChar, lower_wildcards, lower_of_no_letter]
  have unescaped : ∀ c ∈ option.mode.leading ++ (option.escape.toLower :: '%' ::
      option.mode.trailing), c ≠ option.escape := by
    have percent := (no_wildcard_of_letter letter).1
    obtain ⟨before, behind⟩ := wildcards_unescaped percent
    simp only [List.forall_mem_append, List.forall_mem_cons]
    exact ⟨before, changed, percent.symm, behind⟩
  have read := read_all_unescaped unescaped []
  rw [List.append_nil] at read
  intro likes
  rw [written, like?, read] at likes
  have accepted := Option.some_inj.mp likes
  have asked : (PatternPlace.plain option.escape.toLower).asked? = some option.escape.toLower := by
    simp [PatternPlace.asked?, no_wildcard_of_letter lowered]
  have found := mem_of_accepts accepted _ (by simp) asked
  exact (no_wildcard_of_letter lowered).1 (List.mem_singleton.mp found)

/-- A lower case letter that escapes takes what follows it, also where it was an upper case letter
of the text. -/
theorem unlike_of_lower (lower : option.escape.isLower = true) :
    like? option.escape ((option.patternChars [option.escape.toUpper]).map Char.toLower)
      [option.escape] ≠ some true := by
  have letter : option.escape.isAlpha = true := Bool.or_eq_true_iff.mpr (.inr lower)
  obtain ⟨raised, other, back⟩ := raised_lower lower
  have wildcard := no_wildcard_of_letter raised
  have written : (option.patternChars [option.escape.toUpper]).map Char.toLower =
      option.mode.leading ++ option.escape :: option.mode.trailing := by
    simp [LikeOption.patternChars, LikeOption.escapedChar, lower_wildcards, other, wildcard, back]
  have percent := (no_wildcard_of_letter letter).1
  have trailing : option.mode.trailing = [] ∨ option.mode.trailing = ['%'] := by
    cases option.mode <;> decide
  rw [written, like?, read_all_unescaped (wildcards_unescaped percent).1]
  intro likes
  obtain ⟨places, read, accepted⟩ := Option.map_eq_some_iff.mp likes
  obtain ⟨behind, readBehind, rfl⟩ := Option.map_eq_some_iff.mp read
  rcases trailing with nothing | wildcard
  · rw [nothing, readPattern?, if_pos rfl] at readBehind
    cases readBehind
  · rw [wildcard, read_escape] at readBehind
    obtain rfl : [.escaped '%'] = behind := Option.some_inj.mp readBehind
    have found := mem_of_accepts accepted (.escaped '%') (by simp) rfl
    exact percent (List.mem_singleton.mp found).symm

theorem unlike_of_letter (letter : option.escape.isAlpha = true) :
    ∃ text : String, like? option.escape ((option.pattern text).toList.map Char.toLower)
      (Text.asciiLower text).toList ≠ some true := by
  rcases Bool.or_eq_true_iff.mp letter with upper | lower
  · refine ⟨"%", ?_⟩
    rw [LikeOption.pattern, String.toList_ofList]
    exact unlike_of_upper upper
  · refine ⟨String.ofList [option.escape.toUpper], ?_⟩
    rw [LikeOption.pattern, Text.asciiLower, String.toList_ofList, String.toList_ofList,
      String.toList_ofList, List.map_singleton, (raised_lower lower).2.2]
    exact unlike_of_lower lower

theorem holds_iff (dialect : Dialect) (column : String) (ignores : option.ignoresCase = true)
    (text subject : String) :
    holdsFor dialect column (Key.likeSearch.predicate column
        (dialect.textLiteral (option.pattern text)) (some option)) subject.toList = true ↔
      ¬ (dialect = .mysql ∧ option.escape = '\\') ∧
        like? option.escape ((option.pattern text).toList.map Char.toLower)
          (Text.asciiLower subject).toList = some true := by
  have read := read_like_predicate dialect .likeSearch rfl column (option.pattern text)
    option []
  rw [List.append_nil, List.append_nil, ignores] at read
  by_cases unclosed : dialect = .mysql ∧ option.escape = '\\'
  · obtain ⟨rfl, backslash⟩ := unclosed
    have refused : Dialect.mysql.readLiteral? option.escapeLiteral = none := by
      simpa [Dialect.readQuoted?] using read_escaped_quote backslash []
    rw [refused] at read
    simp [holdsFor, read, backslash]
  · have escape := (read_escape_literal_iff dialect option [] (by decide)).mpr unclosed
    rw [List.append_nil] at escape
    rw [escape] at read
    simp [holdsFor, read, LikeReading.truth?, unclosed, Text.asciiLower]

end

/-- A like comparison that ignores case holds for the subjects that stand to the text as the mode
asks, both in lower case, exactly when no letter escapes; on MySQL no backslash may either. -/
theorem ignored_case_iff (dialect : Dialect) (column : String) (option : LikeOption)
    (ignores : option.ignoresCase = true) (apart : option.escape ≠ '%') :
    (∀ text subject : String,
      (holdsFor dialect column (Key.likeSearch.predicate column
          (dialect.textLiteral (option.pattern text)) (some option)) subject.toList = true ↔
        option.mode.Relates (Text.asciiLower text).toList (Text.asciiLower subject).toList)) ↔
      option.escape.isAlpha = false ∧ ¬ (dialect = .mysql ∧ option.escape = '\\') := by
  simp only [holds_iff dialect column ignores]
  constructor
  · intro each
    have closed := ((each "" "").mpr (relates_self _ _)).1
    refine ⟨?_, closed⟩
    rw [Bool.eq_false_iff]
    intro letter
    obtain ⟨text, unlike⟩ := unlike_of_letter letter
    exact unlike ((each text text).mpr (relates_self _ _)).2
  · rintro ⟨unlettered, closed⟩ text subject
    have lowered : (option.pattern text).toList.map Char.toLower =
        option.patternChars (Text.asciiLower text).toList := by
      rw [LikeOption.pattern, Text.asciiLower, String.toList_ofList, String.toList_ofList,
        lowered_pattern unlettered]
    rw [lowered, like_iff_relates apart]
    exact and_iff_right closed

/-- A name with an exclamation mark in it, found whatever its case is. -/
theorem member_found_in_any_case :
    (LikeOption.mk .contain '!' true).ignoresCase = true ∧
      (LikeOption.mk .contain '!' true).escape ≠ '%' ∧
      holdsFor .mysql "dflocal.MEMBER_NAME" (Key.likeSearch.predicate "dflocal.MEMBER_NAME"
        (Dialect.mysql.textLiteral (LikeOption.pattern ⟨.contain, '!', true⟩ "O!_h"))
        (some ⟨.contain, '!', true⟩)) "jo!_HN".toList = true := by
  have apart : (LikeOption.mk .contain '!' true).escape ≠ '%' := by decide
  have each := (ignored_case_iff .mysql "dflocal.MEMBER_NAME" ⟨.contain, '!', true⟩ rfl apart).mpr
    (by decide)
  exact ⟨rfl, apart, (each "O!_h" "jo!_HN").mpr ⟨"j".toList, "n".toList, by decide⟩⟩

/-- With a letter as the escape character the percent sign of a text becomes a wildcard, and the
text itself is not found. -/
theorem percent_unescaped_in_lower_case :
    Key.likeSearch.predicate "NAME"
        (Dialect.mysql.textLiteral (LikeOption.pattern ⟨.exact, 'X', true⟩ "50%"))
        (some ⟨.exact, 'X', true⟩) = "lower(NAME) like lower('50X%') escape 'X'" ∧
    holdsFor .mysql "NAME" "lower(NAME) like lower('50X%') escape 'X'" "50%".toList = false ∧
    LikeMode.exact.Relates (Text.asciiLower "50%").toList (Text.asciiLower "50%").toList := by
  have written : Key.likeSearch.predicate "NAME"
      (Dialect.mysql.textLiteral (LikeOption.pattern ⟨.exact, 'X', true⟩ "50%"))
      (some ⟨.exact, 'X', true⟩) = "lower(NAME) like lower('50X%') escape 'X'" := by decide
  have holds := @holds_iff ⟨.exact, 'X', true⟩ .mysql "NAME" rfl "50%" "50%"
  rw [written] at holds
  refine ⟨written, ?_, rfl⟩
  rw [Bool.eq_false_iff, ne_eq, holds]
  decide

end SqlComposer.Condition
