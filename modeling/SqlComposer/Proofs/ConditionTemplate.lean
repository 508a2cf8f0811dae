import SqlComposer.Proofs.Refusals
import SqlComposer.Proofs.Substitution

/-!
Fixed conditions as sequences of pieces: plain texts, alias variables and parameter references. The
resolver replaces one variable after the other and then reads the text for references; for such
sequences this is the same as writing each piece on its own, so that neither an alias nor a literal
is read again.
-/
namespace SqlComposer.FixedCondition

/-- The ways in which a condition names the two tables of a join. -/
inductive TableVariable where
  | foreign
  | foreignLong
  | near
  deriving DecidableEq

namespace TableVariable

def mark : TableVariable → List Char
  | foreign => "$$alias$$".toList
  | foreignLong => "$$foreignAlias$$".toList
  | near => "$$localAlias$$".toList

def aliasName (scope : Scope) : TableVariable → String
  | foreign | foreignLong => scope.foreignAlias
  | near => scope.localAlias

end TableVariable

/-- What stands for the value of a parameter where a condition is read without parameters. -/
inductive Dummy where
  | none
  | quoted (text : String)
  | plain (run : String)

namespace Dummy

/-- A character between quotes: a quote is doubled. -/
def quotedChar (c : Char) : List Char := if c = '\'' then ['\'', '\''] else [c]

def chars : Dummy → List Char
  | none => []
  | quoted text => '\'' :: (text.toList.flatMap quotedChar ++ ['\''])
  | plain run => run.toList

def Fits : Dummy → Prop
  | none => True
  | quoted text => '$' ∉ text.toList
  | plain run => run.toList ≠ [] ∧ ∀ c ∈ run.toList, isDummyChar c = true

end Dummy

inductive Piece where
  | plain (text : String)
  | table (side : TableVariable)
  | parameter (name : String) (dummy : Dummy)

namespace Piece

/-- The characters of a piece, given how the variables are written. -/
def chars (names : TableVariable → List Char) : Piece → List Char
  | plain text => text.toList
  | table side => names side
  | parameter name dummy => '/' :: '*' :: '$' :: (name.toList ++ '*' :: '/' :: dummy.chars)

/-- What a piece becomes: its own text, the alias of a table, or the literal of a value. -/
def resolved (scope : Scope) (condition : String) : Piece → Except ClauseError String
  | plain text => .ok text
  | table side => .ok (side.aliasName scope)
  | parameter name _ =>
    match scope.parameters.find? name with
    | some value => .ok (value.literal scope.dialect)
    | none => .error (.illegalArgument (.unknownParameter name condition))

end Piece

def writtenWith (names : TableVariable → List Char) (pieces : List Piece) : List Char :=
  pieces.flatMap (Piece.chars names)

/-- A condition as it is declared. -/
def written (pieces : List Piece) : String :=
  String.ofList (writtenWith TableVariable.mark pieces)

def BeginsWith (possible : Char → Prop) : List Piece → Prop
  | .plain text :: _ => ∃ c rest, text.toList = c :: rest ∧ possible c
  | _ => False

/-- A name that a reference can have. -/
def IsName (name : String) : Prop :=
  name.toList ≠ [] ∧ ∀ c ∈ name.toList, Text.isWord c = true

/-- The sequences of pieces in which no piece runs into its neighbours. -/
def Fits : List Piece → Prop
  | [] => True
  | .plain text :: rest => '$' ∉ text.toList ∧ Fits rest
  | .table _ :: rest => BeginsWith (· = '.') rest ∧ Fits rest
  | .parameter name dummy :: rest =>
    IsName name ∧ dummy.Fits ∧
      (rest = [] ∨ BeginsWith (fun c => c = ' ' ∨ c = ')') rest) ∧ Fits rest

theorem written_cons (names : TableVariable → List Char) (piece : Piece) (rest : List Piece) :
    writtenWith names (piece :: rest) = piece.chars names ++ writtenWith names rest :=
  List.flatMap_cons

theorem written_begins (names : TableVariable → List Char) {possible : Char → Prop}
    {pieces : List Piece} (begins : BeginsWith possible pieces) :
    ∃ c rest, writtenWith names pieces = c :: rest ∧ possible c := by
  unfold BeginsWith at begins
  split at begins
  · next text more =>
      obtain ⟨c, rest, shape, holds⟩ := begins
      exact ⟨c, rest ++ writtenWith names more, by
        rw [written_cons, Piece.chars, shape, List.cons_append], holds⟩
  · exact begins.elim

theorem IsName.dollar_free {name : String} (named : IsName name) : '$' ∉ name.toList := by
  intro member
  have word := named.2 _ member
  revert word
  decide +kernel

theorem Dummy.Fits.dollar_free {dummy : Dummy} (fits : dummy.Fits) : '$' ∉ dummy.chars := by
  cases dummy with
  | none => exact List.not_mem_nil
  | quoted text =>
      simp only [Dummy.chars, List.mem_cons, List.mem_append, List.mem_flatMap, not_or]
      refine ⟨by decide, fun ⟨c, inside, here⟩ => ?_, by decide, List.not_mem_nil⟩
      unfold quotedChar at here
      split_ifs at here
      · simp at here
      · obtain rfl := List.mem_singleton.mp here
        exact fits inside
  | plain run =>
      intro member
      have dummy := fits.2 _ member
      revert dummy
      decide +kernel

section Variables

variable {mark replacement : List Char}

/-- Characters that do not begin the mark are passed over. -/
theorem replace_chars_behind {c : Char} {later : List Char} (starts : mark = c :: later)
    {before : List Char} (free : c ∉ before) (after : List Char) :
    Text.replaceChars mark replacement (before ++ after) =
      before ++ Text.replaceChars mark replacement after := by
  induction before with
  | nil => rfl
  | cons other before ih =>
      rw [List.mem_cons, not_or] at free
      have here : Text.afterMark? mark (other :: (before ++ after)) = none := by
        rw [starts, Text.afterMark?, if_neg free.1]
      rw [List.cons_append, Text.replace_chars_cons here, ih free.2, List.cons_append]

theorem TableVariable.mark_starts (side : TableVariable) :
    ∃ later, side.mark = '$' :: '$' :: later := by
  cases side <;> exact ⟨_, rfl⟩

/-- A single dollar sign begins no variable. -/
theorem replace_reference (side : TableVariable) {name : String} (named : IsName name)
    {dummy : Dummy} (fits : dummy.Fits) (names : TableVariable → List Char) (after : List Char) :
    Text.replaceChars side.mark replacement
        ((Piece.parameter name dummy).chars names ++ after) =
      (Piece.parameter name dummy).chars names ++
        Text.replaceChars side.mark replacement after := by
  obtain ⟨later, starts⟩ := side.mark_starts
  have free : '$' ∉ name.toList ++ '*' :: '/' :: dummy.chars := by
    simp [named.dollar_free, fits.dollar_free]
  obtain ⟨first, rest, shape⟩ := List.exists_cons_of_ne_nil
    (List.append_ne_nil_of_left_ne_nil named.1 ('*' :: '/' :: dummy.chars))
  have single : Text.afterMark? side.mark ('$' :: ((first :: rest) ++ after)) = none := by
    rw [shape, List.mem_cons, not_or] at free
    rw [starts, Text.afterMark?, if_pos rfl, List.cons_append, Text.afterMark?, if_neg free.1]
  have opened : Text.replaceChars side.mark replacement
      (['/', '*'] ++ '$' :: ((first :: rest) ++ after)) =
        ['/', '*'] ++ Text.replaceChars side.mark replacement ('$' :: ((first :: rest) ++ after)) :=
    replace_chars_behind starts (by decide) _
  rw [← shape] at single opened
  rw [Text.replace_chars_cons single, replace_chars_behind starts free] at opened
  exact opened

/-- Where the other variables are written without the mark of one, this one is replaced for all
pieces at once. -/
theorem replace_variable (side : TableVariable) (names : TableVariable → List Char)
    (replacement : List Char) (own : names side = side.mark)
    (apart : ∀ other, other ≠ side → ¬ side.mark <:+: names other)
    {pieces : List Piece} (fits : Fits pieces) :
    Text.replaceChars side.mark replacement (writtenWith names pieces) =
      writtenWith (Function.update names side replacement) pieces := by
  induction pieces with
  | nil => rfl
  | cons piece rest ih =>
      obtain ⟨later, starts⟩ := side.mark_starts
      rw [written_cons, written_cons]
      cases piece with
      | plain text =>
          obtain ⟨free, fits⟩ := fits
          rw [← ih fits]
          exact replace_chars_behind starts free _
      | table other =>
          obtain ⟨begins, fits⟩ := fits
          rw [← ih fits, Piece.chars, Piece.chars]
          by_cases same : other = side
          · subst same
            rw [own, Text.replace_chars_mark (by rw [starts]; exact List.cons_ne_nil _ _),
              Function.update_self]
          · obtain ⟨c, text, shape, rfl⟩ := written_begins names begins
            have inside : '.' ∉ side.mark.tail := by cases side <;> decide
            rw [shape, Text.replace_chars_append
                (by rw [starts]; exact List.cons_ne_nil _ _) inside,
              Text.replace_chars_of_absent (apart other same), Function.update_of_ne same]
      | parameter name dummy =>
          obtain ⟨named, dummies, _, fits⟩ := fits
          rw [← ih fits]
          exact replace_reference side named dummies names _

/-- The tables are named piece by piece. -/
theorem name_tables_of_pieces {scope : Scope} (foreignPlain : '$' ∉ scope.foreignAlias.toList)
    {pieces : List Piece} (fits : Fits pieces) :
    (nameTables scope (written pieces)).toList =
      writtenWith (fun side => (side.aliasName scope).toList) pieces := by
  have unmarked : ∀ (side : TableVariable) {chars : List Char}, '$' ∉ chars →
      ¬ side.mark <:+: chars := by
    intro side chars free present
    obtain ⟨later, starts⟩ := side.mark_starts
    exact free (present.subset (by rw [starts]; exact List.mem_cons_self))
  have first := replace_variable .foreignLong TableVariable.mark scope.foreignAlias.toList rfl
    (by
      intro other different
      cases other with
      | foreignLong => exact absurd rfl different
      | foreign | near => decide)
    fits
  have second := replace_variable .foreign
    (Function.update TableVariable.mark .foreignLong scope.foreignAlias.toList)
    scope.foreignAlias.toList rfl
    (by
      intro other different
      cases other with
      | foreign => exact absurd rfl different
      | foreignLong => exact unmarked _ foreignPlain
      | near =>
          exact (by decide : ¬ TableVariable.foreign.mark <:+: TableVariable.near.mark))
    fits
  have third := replace_variable .near
    (Function.update (Function.update TableVariable.mark .foreignLong scope.foreignAlias.toList)
      .foreign scope.foreignAlias.toList)
    scope.localAlias.toList rfl
    (by
      intro other different
      cases other with
      | near => exact absurd rfl different
      | foreign | foreignLong => exact unmarked _ foreignPlain)
    fits
  have named : Function.update (Function.update
      (Function.update TableVariable.mark .foreignLong scope.foreignAlias.toList) .foreign
      scope.foreignAlias.toList) .near scope.localAlias.toList =
        fun side : TableVariable => (side.aliasName scope).toList := by
    funext side
    cases side <;> rfl
  rw [← named, ← third, ← second, ← first]
  simp only [nameTables, Text.replace, written, String.toList_ofList]
  rfl

end Variables

section References

variable {condition : String} {scope : Scope}

/-- A text that does not complete the beginning of a reference before it. -/
def Guarded (chars : List Char) : Prop :=
  ¬ ['$'] <+: chars ∧ ¬ ['*', '$'] <+: chars

theorem guarded_append {before after : List Char} (free : '$' ∉ before) (guarded : Guarded after) :
    Guarded (before ++ after) := by
  match before with
  | [] => exact guarded
  | [c] =>
      rw [List.mem_singleton] at free
      refine ⟨fun present => free (List.cons_prefix_cons.mp present).1, fun present => ?_⟩
      exact guarded.1 (List.cons_prefix_cons.mp present).2
  | first :: second :: rest =>
      simp only [List.mem_cons, not_or] at free
      refine ⟨fun present => free.1 (List.cons_prefix_cons.mp present).1, fun present => ?_⟩
      exact free.2.1 (List.cons_prefix_cons.mp (List.cons_prefix_cons.mp present).2).1

theorem no_reference_before {before after : List Char} {c : Char} (free : '$' ∉ c :: before)
    (guarded : Guarded after) : reference? (c :: before ++ after) = none := by
  have unmarked : Text.afterMark? ['/', '*', '$'] (c :: before ++ after) = none := by
    by_contra present
    obtain ⟨_, later⟩ := List.cons_prefix_cons.mp (Text.after_mark_ne_none_iff.mp present)
    rw [List.mem_cons, not_or] at free
    exact (guarded_append free.2 guarded).2 later
  rw [reference?, unmarked]

/-- No reference begins in a text without dollar signs. -/
theorem substitute_free {before after : List Char} (free : '$' ∉ before)
    (guarded : Guarded after) :
    substitute condition scope (before ++ after) =
      (substitute condition scope after).map (before ++ ·) := by
  induction before with
  | nil =>
      rw [List.nil_append]
      cases substitute condition scope after <;> rfl
  | cons c before ih =>
      have none := no_reference_before free guarded
      rw [List.mem_cons, not_or] at free
      rw [List.cons_append] at none ⊢
      rw [substitute]
      split
      · next name rest found =>
          rw [none] at found
          cases found
      · rw [ih free.2]
        cases substitute condition scope after <;> rfl

theorem substitute_unknown {chars name after : List Char}
    (found : reference? chars = some (name, after))
    (unknown : scope.parameters.find? (String.ofList name) = none) :
    substitute condition scope chars =
      .error (.illegalArgument (.unknownParameter (String.ofList name) condition)) := by
  rw [substitute_of_reference found, unknown]

/-- What may follow a reference: nothing, a space or a closing parenthesis. -/
def Ends (chars : List Char) : Prop :=
  ∀ c ∈ chars.head?, c = ' ' ∨ c = ')'

theorem ends_of_follows (names : TableVariable → List Char) {rest : List Piece}
    (follows : rest = [] ∨ BeginsWith (fun c => c = ' ' ∨ c = ')') rest) :
    Ends (writtenWith names rest) := by
  rcases follows with rfl | begins
  · exact nofun
  · obtain ⟨c, text, shape, possible⟩ := written_begins names begins
    rw [shape]
    rintro other ⟨⟩
    exact possible

theorem after_quoted (text : List Char) {after : List Char} (ends : Ends after) :
    afterQuoted? (text.flatMap Dummy.quotedChar ++ '\'' :: after) = some after := by
  induction text with
  | nil =>
      cases after with
      | nil => rfl
      | cons c after =>
          rcases ends c rfl with rfl | rfl <;> simp [afterQuoted?]
  | cons c text ih =>
      rw [List.flatMap_cons, List.append_assoc, Dummy.quotedChar]
      split_ifs with quote
      · rw [List.cons_append, List.singleton_append, afterQuoted?, ih]
      · rw [List.singleton_append, afterQuoted?, ih]
        all_goals simp [quote]

theorem drop_dummy_chars {after : List Char} (ends : Ends after) :
    after.dropWhile isDummyChar = after := by
  cases after with
  | nil => rfl
  | cons c after =>
      rcases ends c rfl with rfl | rfl <;>
        exact List.dropWhile_cons_of_neg (by decide +kernel)

/-- The dummy of a reference goes as far as it has been written. -/
theorem after_dummy {dummy : Dummy} (fits : dummy.Fits) {after : List Char} (ends : Ends after) :
    afterDummy (dummy.chars ++ after) = after := by
  cases dummy with
  | none =>
      rw [Dummy.chars, List.nil_append, afterDummy]
      · exact drop_dummy_chars ends
      · rintro rest rfl
        rcases ends '\'' rfl with same | same <;> cases same
  | quoted text =>
      rw [Dummy.chars, List.cons_append, List.append_assoc, List.singleton_append, afterDummy,
        after_quoted _ ends]
      rfl
  | plain run =>
      rw [Dummy.chars, afterDummy]
      · rw [List.dropWhile_append_of_pos fits.2, drop_dummy_chars ends]
      · intro rest shape
        obtain ⟨c, others, first⟩ := List.exists_cons_of_ne_nil fits.1
        rw [first, List.cons_append] at shape
        have quote := fits.2 c (by rw [first]; exact List.mem_cons_self)
        rw [(List.cons.inj shape).1] at quote
        revert quote
        decide +kernel

theorem reference_read {name : String} (named : IsName name) {dummy : Dummy} (fits : dummy.Fits)
    (names : TableVariable → List Char) {after : List Char} (ends : Ends after) :
    reference? ((Piece.parameter name dummy).chars names ++ after) =
      some (name.toList, after) := by
  have opened : Text.afterMark? ['/', '*', '$']
      ((Piece.parameter name dummy).chars names ++ after) =
        some (name.toList ++ '*' :: '/' :: (dummy.chars ++ after)) := by
    rw [Text.afterMark?_eq_some_iff]
    simp [Piece.chars]
  have stops : Text.isWord '*' = false := by decide +kernel
  have taken : (name.toList ++ '*' :: '/' :: (dummy.chars ++ after)).takeWhile Text.isWord =
      name.toList := by
    rw [List.takeWhile_append_of_pos named.2, List.takeWhile_cons_of_neg (by simp [stops]),
      List.append_nil]
  have left : (name.toList ++ '*' :: '/' :: (dummy.chars ++ after)).dropWhile Text.isWord =
      '*' :: '/' :: (dummy.chars ++ after) := by
    rw [List.dropWhile_append_of_pos named.2, List.dropWhile_cons_of_neg (by simp [stops])]
  have closed : Text.afterMark? ['*', '/'] ('*' :: '/' :: (dummy.chars ++ after)) =
      some (dummy.chars ++ after) := rfl
  rw [reference?, opened]
  dsimp only
  rw [taken, left, closed, if_neg (by simpa using named.1), Option.map_some,
    after_dummy fits ends]

theorem guarded_written {names : TableVariable → List Char} (plain : ∀ side, '$' ∉ names side)
    {pieces : List Piece} (fits : Fits pieces) : Guarded (writtenWith names pieces) := by
  induction pieces with
  | nil => exact ⟨by simp [writtenWith], by simp [writtenWith]⟩
  | cons piece rest ih =>
      rw [written_cons]
      cases piece with
      | plain text => exact guarded_append fits.1 (ih fits.2)
      | table side => exact guarded_append (plain side) (ih fits.2)
      | parameter name dummy => exact ⟨by simp [Piece.chars], by simp [Piece.chars]⟩

theorem resolved_cons {piece : Piece} {part : String}
    (here : piece.resolved scope condition = .ok part) (rest : List Piece) :
    (((piece :: rest).mapM (Piece.resolved scope condition)).map fun parts =>
        (String.join parts).toList) =
      ((rest.mapM (Piece.resolved scope condition)).map fun parts =>
        (String.join parts).toList).map (part.toList ++ ·) := by
  rw [List.mapM_cons, here]
  cases rest.mapM (Piece.resolved scope condition) with
  | error refusal => rfl
  | ok parts =>
      change Except.ok (String.join (part :: parts)).toList = Except.ok _
      rw [String.join_cons, String.toList_append]

/-- The parameters are put in piece by piece. -/
theorem substitute_pieces (localPlain : '$' ∉ scope.localAlias.toList)
    (foreignPlain : '$' ∉ scope.foreignAlias.toList) {pieces : List Piece} (fits : Fits pieces) :
    substitute condition scope
        (writtenWith (fun side => (side.aliasName scope).toList) pieces) =
      (pieces.mapM (Piece.resolved scope condition)).map fun parts =>
        (String.join parts).toList := by
  have plain : ∀ side : TableVariable, '$' ∉ (side.aliasName scope).toList := by
    intro side
    cases side with
    | near => exact localPlain
    | foreign | foreignLong => exact foreignPlain
  induction pieces with
  | nil =>
      rw [writtenWith, List.flatMap_nil, substitute]
      rfl
  | cons piece rest ih =>
      rw [written_cons]
      cases piece with
      | plain text =>
          obtain ⟨free, fits⟩ := fits
          have here : (Piece.plain text).resolved scope condition = .ok text := rfl
          rw [resolved_cons here, ← ih fits]
          exact substitute_free free (guarded_written plain fits)
      | table side =>
          obtain ⟨_, fits⟩ := fits
          have here : (Piece.table side).resolved scope condition =
              .ok (side.aliasName scope) := rfl
          rw [resolved_cons here, ← ih fits]
          exact substitute_free (plain side) (guarded_written plain fits)
      | parameter name dummy =>
          obtain ⟨named, dummies, follows, fits⟩ := fits
          have ends := ends_of_follows (fun side => (side.aliasName scope).toList) follows
          have read := reference_read named dummies (fun side => (side.aliasName scope).toList) ends
          cases known : scope.parameters.find? name with
          | none =>
              rw [substitute_unknown read (by rw [String.ofList_toList, known]),
                String.ofList_toList, List.mapM_cons, Piece.resolved, known]
              rfl
          | some value =>
              have here : (Piece.parameter name dummy).resolved scope condition =
                  .ok (value.literal scope.dialect) := by
                rw [Piece.resolved, known]
              rw [resolved_cons here, ← ih fits,
                substitute_reference read (by rw [String.ofList_toList, known])]

end References

/-- A condition made of pieces is resolved piece by piece: a variable becomes the alias of its table
and a reference, together with its dummy, the literal of its value. Only a reference to a parameter
that is not there is refused. -/
theorem resolve_pieces {scope : Scope} (localPlain : '$' ∉ scope.localAlias.toList)
    (foreignPlain : '$' ∉ scope.foreignAlias.toList) {pieces : List Piece} (fits : Fits pieces) :
    resolve (written pieces) scope =
        (pieces.mapM (Piece.resolved scope (written pieces))).map String.join ∧
      ((∃ refusal, resolve (written pieces) scope = .error refusal) ↔
        ∃ name dummy, Piece.parameter name dummy ∈ pieces ∧
          scope.parameters.find? name = none) := by
  have whole : resolve (written pieces) scope =
      (pieces.mapM (Piece.resolved scope (written pieces))).map String.join := by
    rw [resolve, name_tables_of_pieces foreignPlain fits,
      substitute_pieces localPlain foreignPlain fits]
    cases pieces.mapM (Piece.resolved scope (written pieces)) with
    | error refusal => rfl
    | ok parts => exact congrArg Except.ok (String.ofList_toList)
  refine ⟨whole, ?_⟩
  rw [whole]
  simp only [map_error_iff]
  constructor
  · rintro ⟨refusal, refused⟩
    obtain ⟨piece, member, fails⟩ := refused_by_step refused
    cases piece with
    | plain text => cases fails
    | table side => cases fails
    | parameter name dummy =>
        refine ⟨name, dummy, member, ?_⟩
        rw [Piece.resolved] at fails
        split at fails
        · cases fails
        · next missing => exact missing
  · rintro ⟨name, dummy, member, missing⟩
    refine refused_of_not_ok fun accepted => ?_
    obtain ⟨output, here⟩ := (map_m_ok_iff _ _).mp accepted _ member
    rw [Piece.resolved, missing] at here
    cases here

/-- A note that reads like a variable and a reference. -/
def noteScope : Scope where
  localAlias := "dflocal"
  foreignAlias := "dfrelation_STATUS_0"
  parameters := ⟨[("note", .text "$$alias$$ /*$other*/")]⟩
  dialect := .postgresql

def notePieces : List Piece :=
  [.table .foreign, .plain ".NOTE = ", .parameter "note" (.quoted "it's"), .plain " and ",
    .table .near, .plain ".ID > 0"]

theorem note_is_not_read_again :
    written notePieces = "$$alias$$.NOTE = /*$note*/'it''s' and $$localAlias$$.ID > 0" ∧
      Fits notePieces ∧ resolve (written notePieces) noteScope =
        .ok "dfrelation_STATUS_0.NOTE = '$$alias$$ /*$other*/' and dflocal.ID > 0" := by
  have named : IsName "note" := ⟨by decide, List.all_eq_true.mp (by decide +kernel)⟩
  have fits : Fits notePieces :=
    ⟨⟨'.', _, rfl, rfl⟩, by decide, named, by simp [Dummy.Fits], .inr ⟨' ', _, rfl, .inl rfl⟩,
      by decide, ⟨'.', _, rfl, rfl⟩, by decide, trivial⟩
  have localPlain : '$' ∉ noteScope.localAlias.toList := by decide
  have foreignPlain : '$' ∉ noteScope.foreignAlias.toList := by decide
  exact ⟨by decide, fits, (resolve_pieces localPlain foreignPlain fits).1.trans rfl⟩

end SqlComposer.FixedCondition
