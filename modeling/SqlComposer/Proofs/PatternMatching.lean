import Mathlib.Data.List.Infix
import Mathlib.Tactic.SplitIfs
import SqlComposer.Condition.Like

/-!
What like patterns accept. In a pattern a percent sign stands for any characters, an underscore for
any one, and the escape character makes the next character stand for itself. The pattern of an
option accepts the subjects that its mode asks for, and no others.
-/
namespace SqlComposer.Condition

/-- A place of a pattern: a character that may be a wildcard, or one behind the escape character. -/
inductive PatternPlace where
  | plain (c : Char)
  | escaped (c : Char)
  deriving DecidableEq

/-- The places of a pattern. A pattern that ends with the escape character has none. -/
def readPattern? (escape : Char) : List Char → Option (List PatternPlace)
  | [] => some []
  | c :: pattern =>
    if c = escape then
      match pattern with
      | [] => none
      | d :: later => (readPattern? escape later).map (.escaped d :: ·)
    else (readPattern? escape pattern).map (.plain c :: ·)

/-- Whether places accept a whole subject, one place after another. -/
def accepts : List PatternPlace → List Char → Bool
  | [], subject => subject.isEmpty
  | .escaped c :: places, subject =>
    match subject with
    | [] => false
    | d :: rest => c == d && accepts places rest
  | .plain c :: places, subject =>
    if c = '%' then subject.tails.any (accepts places)
    else
      match subject with
      | [] => false
      | d :: rest => (c == '_' || c == d) && accepts places rest

/-- Whether a subject is like a pattern, where the pattern can be read. -/
def like? (escape : Char) (pattern subject : List Char) : Option Bool :=
  (readPattern? escape pattern).map (accepts · subject)

/-- Whether the escape character of a pattern always stands before a wildcard or before itself. -/
def IsWellEscaped (escape : Char) (pattern : List Char) : Prop :=
  ∃ places, readPattern? escape pattern = some places ∧
    ∀ c, .escaped c ∈ places → c = '%' ∨ c = '_' ∨ c = escape

/-- What a mode asks of a subject. -/
def LikeMode.Relates : LikeMode → List Char → List Char → Prop
  | start, searched, subject => searched <+: subject
  | finish, searched, subject => searched <:+ subject
  | contain, searched, subject => searched <:+: subject
  | exact, searched, subject => searched = subject

theorem read_escape (escape d : Char) (pattern : List Char) :
    readPattern? escape (escape :: d :: pattern) =
      (readPattern? escape pattern).map (.escaped d :: ·) := by
  rw [readPattern?, if_pos rfl]

theorem read_unescaped {escape c : Char} (other : c ≠ escape) (pattern : List Char) :
    readPattern? escape (c :: pattern) = (readPattern? escape pattern).map (.plain c :: ·) := by
  rw [readPattern?.eq_def]
  exact if_neg other

theorem read_all_unescaped {escape : Char} {chars : List Char} (others : ∀ c ∈ chars, c ≠ escape)
    (pattern : List Char) :
    readPattern? escape (chars ++ pattern) =
      (readPattern? escape pattern).map (chars.map .plain ++ ·) := by
  induction chars with
  | nil => simp
  | cons c chars ih =>
      rw [List.forall_mem_cons] at others
      rw [List.cons_append, read_unescaped others.1, ih others.2, Option.map_map]
      rfl

/-- The place that a character of the searched text has in a pattern. -/
def LikeOption.place (option : LikeOption) (c : Char) : PatternPlace :=
  if c = option.escape ∨ c = '%' ∨ c = '_' then .escaped c else .plain c

theorem read_escaped_chars (option : LikeOption) (chars pattern : List Char) :
    readPattern? option.escape (chars.flatMap option.escapedChar ++ pattern) =
      (readPattern? option.escape pattern).map (chars.map option.place ++ ·) := by
  induction chars with
  | nil => simp
  | cons c chars ih =>
      rw [List.flatMap_cons, List.append_assoc, List.map_cons, LikeOption.escapedChar,
        LikeOption.place]
      split_ifs with special
      · rw [List.cons_append, List.cons_append, List.nil_append, read_escape, ih, Option.map_map]
        rfl
      · have other : c ≠ option.escape := fun same => special (.inl same)
        rw [List.cons_append, List.nil_append, read_unescaped other, ih, Option.map_map]
        rfl

theorem wildcards_unescaped {option : LikeOption} (apart : option.escape ≠ '%') :
    (∀ c ∈ option.mode.leading, c ≠ option.escape) ∧
      ∀ c ∈ option.mode.trailing, c ≠ option.escape := by
  cases option.mode <;> simp [LikeMode.leading, LikeMode.trailing, apart.symm]

/-- The places of the pattern of a text: its characters between the wildcards of the mode. -/
theorem read_pattern_of_option {option : LikeOption} (apart : option.escape ≠ '%')
    (chars : List Char) :
    readPattern? option.escape (option.patternChars chars) =
      some (option.mode.leading.map .plain ++ chars.map option.place ++
        option.mode.trailing.map .plain) := by
  obtain ⟨before, behind⟩ := wildcards_unescaped apart
  have ends := read_all_unescaped behind []
  rw [List.append_nil] at ends
  rw [LikeOption.patternChars, List.append_assoc, read_all_unescaped before, read_escaped_chars,
    ends]
  simp [readPattern?]

theorem accepts_nil_iff (subject : List Char) : accepts [] subject = true ↔ subject = [] := by
  simp [accepts]

theorem accepts_any_text_iff (places : List PatternPlace) (subject : List Char) :
    accepts (.plain '%' :: places) subject = true ↔
      ∃ rest, rest <:+ subject ∧ accepts places rest = true := by
  simp [accepts, List.any_eq_true]

/-- The character that a place asks for, if it is no wildcard. -/
def PatternPlace.asked? : PatternPlace → Option Char
  | escaped c => some c
  | plain c => if c = '%' ∨ c = '_' then none else some c

theorem accepts_cons {place : PatternPlace} {places : List PatternPlace} {subject : List Char}
    (accepted : accepts (place :: places) subject = true) :
    ∃ taken rest, subject = taken ++ rest ∧ accepts places rest = true ∧
      ∀ c, place.asked? = some c → c ∈ taken := by
  cases place with
  | escaped d =>
      cases subject with
      | nil => cases accepted
      | cons e rest =>
          rw [accepts, Bool.and_eq_true, beq_iff_eq] at accepted
          refine ⟨[e], rest, rfl, accepted.2, fun c asked => ?_⟩
          cases asked
          exact List.mem_singleton.mpr accepted.1
  | plain d =>
      by_cases percent : d = '%'
      · rw [percent, accepts_any_text_iff] at accepted
        obtain ⟨rest, ⟨taken, rfl⟩, later⟩ := accepted
        refine ⟨taken, rest, rfl, later, fun c asked => ?_⟩
        simp [PatternPlace.asked?, percent] at asked
      · cases subject with
        | nil => simp [accepts, percent] at accepted
        | cons e rest =>
            simp only [accepts, if_neg percent, Bool.and_eq_true, Bool.or_eq_true,
              beq_iff_eq] at accepted
            refine ⟨[e], rest, rfl, accepted.2, fun c asked => ?_⟩
            simp only [PatternPlace.asked?, percent, false_or, Option.ite_none_left_eq_some,
              Option.some_inj] at asked
            rw [List.mem_singleton, ← asked.2]
            exact accepted.1.resolve_left asked.1

/-- A subject has every character that a pattern asks for. -/
theorem mem_of_accepts {places : List PatternPlace} {subject : List Char}
    (accepted : accepts places subject = true) (place : PatternPlace) (member : place ∈ places)
    {c : Char} (asked : place.asked? = some c) : c ∈ subject := by
  induction places generalizing subject with
  | nil => cases member
  | cons first places ih =>
      obtain ⟨taken, rest, rfl, later, asks⟩ := accepts_cons accepted
      rw [List.mem_append]
      rcases List.mem_cons.mp member with rfl | member
      · exact .inl (asks c asked)
      · exact .inr (ih later member)

theorem accepts_place_iff (option : LikeOption) (c : Char) (places : List PatternPlace)
    (subject : List Char) :
    accepts (option.place c :: places) subject = true ↔
      ∃ rest, subject = c :: rest ∧ accepts places rest = true := by
  have taken : accepts (option.place c :: places) subject =
      match subject with
      | [] => false
      | d :: rest => c == d && accepts places rest := by
    unfold LikeOption.place
    split_ifs with special
    · rfl
    · rw [not_or, not_or] at special
      have other : (c == '_') = false := beq_eq_false_iff_ne.mpr special.2.2
      simp only [accepts, if_neg special.2.1, other, Bool.false_or]
  rw [taken]
  cases subject with
  | nil => simp
  | cons d rest =>
      rw [Bool.and_eq_true, beq_iff_eq]
      constructor
      · rintro ⟨rfl, accepted⟩
        exact ⟨rest, rfl, accepted⟩
      · rintro ⟨_, same, accepted⟩
        obtain ⟨rfl, rfl⟩ := List.cons.inj same
        exact ⟨rfl, accepted⟩

theorem accepts_places_iff (option : LikeOption) (chars : List Char) (places : List PatternPlace)
    (subject : List Char) :
    accepts (chars.map option.place ++ places) subject = true ↔
      ∃ rest, subject = chars ++ rest ∧ accepts places rest = true := by
  induction chars generalizing subject with
  | nil => simp
  | cons c chars ih =>
      rw [List.map_cons, List.cons_append, accepts_place_iff]
      simp only [ih]
      constructor
      · rintro ⟨_, rfl, rest, rfl, accepted⟩
        exact ⟨rest, rfl, accepted⟩
      · rintro ⟨rest, rfl, accepted⟩
        exact ⟨_, rfl, rest, rfl, accepted⟩

theorem accepts_mode_iff (option : LikeOption) (chars subject : List Char) :
    accepts (option.mode.leading.map .plain ++ chars.map option.place ++
      option.mode.trailing.map .plain) subject = true ↔ option.mode.Relates chars subject := by
  have whole : ∀ subject : List Char, accepts [.plain '%'] subject = true := by
    intro subject
    exact (accepts_any_text_iff [] subject).mpr ⟨[], List.nil_suffix, rfl⟩
  have starts : ∀ subject : List Char,
      accepts (chars.map option.place ++ [.plain '%']) subject = true ↔ chars <+: subject := by
    intro subject
    rw [accepts_places_iff]
    simp [whole, List.IsPrefix, eq_comm]
  have equals : ∀ subject : List Char,
      accepts (chars.map option.place) subject = true ↔ chars = subject := by
    intro subject
    have all := accepts_places_iff option chars [] subject
    rw [List.append_nil] at all
    simp only [all, accepts_nil_iff, exists_eq_right, List.append_nil]
    exact eq_comm
  cases mode : option.mode with
  | start => exact starts subject
  | finish =>
      simp [LikeMode.leading, LikeMode.trailing, accepts_any_text_iff, equals, LikeMode.Relates]
  | contain =>
      simp [LikeMode.leading, LikeMode.trailing, accepts_any_text_iff, starts, LikeMode.Relates,
        List.infix_iff_prefix_suffix, and_comm]
  | exact =>
      simp [LikeMode.leading, LikeMode.trailing, equals, LikeMode.Relates]

theorem like_iff_relates {option : LikeOption} (apart : option.escape ≠ '%')
    (chars subject : List Char) :
    like? option.escape (option.patternChars chars) subject = some true ↔
      option.mode.Relates chars subject := by
  rw [like?, read_pattern_of_option apart, Option.map_some, Option.some_inj]
  exact accepts_mode_iff option chars subject

theorem pattern_well_escaped {option : LikeOption} (apart : option.escape ≠ '%')
    (chars : List Char) : IsWellEscaped option.escape (option.patternChars chars) := by
  refine ⟨_, read_pattern_of_option apart chars, fun c member => ?_⟩
  rw [List.mem_append, List.mem_append] at member
  rcases member with (leading | inner) | trailing
  · obtain ⟨d, _, wildcard⟩ := List.mem_map.mp leading
    cases wildcard
  · obtain ⟨d, _, place⟩ := List.mem_map.mp inner
    unfold LikeOption.place at place
    split_ifs at place with special
    · cases place
      tauto
  · obtain ⟨d, _, wildcard⟩ := List.mem_map.mp trailing
    cases wildcard

/-- Whatever the escape character is, if it is not the percent sign, a subject is like the pattern
of a text exactly when it stands to the text as the mode asks. The pattern escapes nothing but
wildcards and the escape character. -/
theorem pattern_likes_mode (option : LikeOption) (apart : option.escape ≠ '%')
    (text subject : String) :
    (like? option.escape (option.pattern text).toList subject.toList = some true ↔
      option.mode.Relates text.toList subject.toList) ∧
    IsWellEscaped option.escape (option.pattern text).toList := by
  rw [LikeOption.pattern, String.toList_ofList]
  exact ⟨like_iff_relates apart text.toList subject.toList, pattern_well_escaped apart text.toList⟩

/-- An underscore that escapes itself is no wildcard. -/
theorem underscore_contained :
    (LikeOption.mk .contain '_' false).escape ≠ '%' ∧
      like? '_' ((LikeOption.mk .contain '_' false).pattern "a_5%").toList "[a_5%]".toList =
        some true := by
  have apart : (LikeOption.mk .contain '_' false).escape ≠ '%' := by decide
  have likes := (pattern_likes_mode ⟨.contain, '_', false⟩ apart "a_5%" "[a_5%]").1
  exact ⟨apart, likes.mpr ⟨['['], [']'], by decide⟩⟩

example : like? '|' "S|_1%".toList "S_15".toList = some true := by decide

example : like? '|' "S|_1%".toList "SX15".toList = some false := by decide

end SqlComposer.Condition
