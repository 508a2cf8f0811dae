import SqlComposer.Proofs.Comparison
import SqlComposer.Proofs.HeldClauses
import SqlComposer.Proofs.Operand
import SqlComposer.Proofs.Exchange
import SqlComposer.Proofs.Scanning

/-!
Texts that open what they close and close what they open, and the literals and clauses made of them.
Whatever a value is, its literal is such a text; in a branch of a union it must moreover not hold
the mark of the select clause, which would be filled inside the literal as well.
-/
namespace SqlComposer

open Condition (Clause Holder Key LikeOption Mode)
open Template (Gap)

/-- A text that starts outside quoted parts in `before` parentheses and ends outside them in
`after`. In a branch of a union the mark of the select clause is outside quoted parts as well. -/
structure Scans (inBranch : Bool) (before after : Nat) (text : String) : Prop where
  read : scan ⟨false, before⟩ text.toList = some ⟨false, after⟩
  sheltered : inBranch = true → Sheltered text.toList

/-- A text that is closed in itself. -/
abbrev Tidy (inBranch : Bool) (text : String) : Prop := Scans inBranch 0 0 text

theorem Closed.tidy {text : String} (closed : Closed text) : Tidy false text := ⟨closed, nofun⟩

section

variable {inBranch : Bool} {before between after : Nat} {first second text : String}

theorem Scans.append (left : Scans inBranch before between first)
    (right : Scans inBranch between after second) :
    Scans inBranch before after (first ++ second) := by
  constructor
  · rw [String.toList_append, scan_append_of left.read]
    exact right.read
  · intro branch
    have paired := (quoted_iff_even left.read).mp rfl
    rw [String.toList_append]
    exact (left.sheltered branch).append paired (right.sheltered branch)

theorem Scans.deeper (scans : Scans inBranch before after text) (extra : Nat) :
    Scans inBranch (before + extra) (after + extra) text :=
  ⟨scan_deeper scans.read extra, scans.sheltered⟩

/-- A closed text is passed in any number of parentheses. -/
theorem Scans.inside (tidy : Tidy inBranch text) (depth : Nat) :
    Scans inBranch depth depth text := by
  have deeper := tidy.deeper depth
  rwa [Nat.zero_add] at deeper

theorem scans_of_word (fits : scan ⟨false, before⟩ text.toList = some ⟨false, after⟩ ∧
    HashFree text) : Scans inBranch before after text :=
  ⟨fits.1, fun _ => sheltered_of_unmarked fits.2.unmarked⟩

theorem tidy_word (word : String)
    (fits : scan ⟨false, 0⟩ word.toList = some ⟨false, 0⟩ ∧ HashFree word) :
    Tidy inBranch word :=
  scans_of_word fits

theorem Scans.word (scans : Scans inBranch before after text) (word : String)
    (fits : scan ⟨false, 0⟩ word.toList = some ⟨false, 0⟩ ∧ HashFree word) :
    Scans inBranch before after (text ++ word) :=
  scans.append ((tidy_word word fits).inside after)

theorem tidy_of_neutral (neutral : Neutral text.toList) (free : HashFree text) :
    Tidy inBranch text :=
  scans_of_word ⟨scan_of_neutral neutral _, free⟩

theorem neutral_of_figures (figures : Figures text) : Neutral text.toList := by
  simp only [Neutral, List.forall_mem_cons]
  exact ⟨figures.not_mem (by decide), figures.not_mem (by decide), figures.not_mem (by decide),
    nofun⟩

theorem tidy_of_figures (figures : Figures text) : Tidy inBranch text :=
  tidy_of_neutral (neutral_of_figures figures) (.of_figures figures)

theorem Scans.enclosed (tidy : Tidy inBranch text) : Tidy inBranch ("(" ++ text ++ ")") := by
  have opened := (scans_of_word (by decide) : Scans inBranch 0 1 "(").append (tidy.inside 1)
  exact opened.append (scans_of_word (by decide))

theorem tidy_join {connector : String} (connects : Tidy inBranch connector) {texts : List String}
    (each : ∀ text ∈ texts, Tidy inBranch text) : Tidy inBranch (Text.join connector texts) := by
  fun_induction Text.join connector texts with
  | case1 => exact scans_of_word (by decide)
  | case2 text => exact each text List.mem_cons_self
  | case3 text rest some ih =>
      rw [List.forall_mem_cons] at each
      exact (each.1.append connects).append (ih each.2)

theorem tidy_concatenated {texts : List String} (each : ∀ text ∈ texts, Tidy inBranch text) :
    Tidy inBranch (String.join texts) := by
  induction texts with
  | nil => exact scans_of_word (by decide)
  | cons text rest ih =>
      rw [List.forall_mem_cons] at each
      rw [String.join_cons]
      exact each.1.append (ih each.2)

end

/-! Literals. -/

theorem scan_doubled (dialect : Dialect) (chars : List Char) (depth : Nat) :
    scan ⟨true, depth⟩ (chars.flatMap dialect.quotedChar) = some ⟨true, depth⟩ := by
  induction chars with
  | nil => rfl
  | cons c rest ih =>
      have each : scan ⟨true, depth⟩ (dialect.quotedChar c) = some ⟨true, depth⟩ := by
        unfold Dialect.quotedChar
        split_ifs with quote
        · rfl
        · rfl
        · simp [scan, scanChar, quote]
      rw [List.flatMap_cons, scan_append_of each]
      exact ih

theorem scan_literal (dialect : Dialect) (text : String) :
    scan ⟨false, 0⟩ (dialect.textLiteral text).toList = some ⟨false, 0⟩ := by
  rw [Dialect.textLiteral, String.toList_ofList, Dialect.quotedChars, scan_cons]
  exact (scan_append_of (scan_doubled dialect text.toList 0) ['\'']).trans rfl

theorem select_mark_plain : IsPlainMark Gap.unionSelect.mark := by
  constructor <;> decide

theorem tidy_text_literal {inBranch : Bool} (dialect : Dialect) {text : String}
    (absent : inBranch = true → ¬ Gap.unionSelect.mark <:+: text.toList) :
    Tidy inBranch (dialect.textLiteral text) := by
  refine ⟨scan_literal dialect text, fun branch => sheltered_of_absent fun present => ?_⟩
  have inner := absent_in_quoted select_mark_plain dialect (absent branch)
  rw [Dialect.textLiteral, String.toList_ofList, Dialect.quotedChars, List.infix_cons_iff]
    at present
  have behind := present.resolve_left (no_prefix_of_quote select_mark_plain _)
  have apart : '\'' ∉ Gap.unionSelect.mark.tail := by decide
  rcases Text.infix_apart apart behind with inside | closing
  · exact inner inside
  · exact absurd (closing.mem (a := '#') (by decide)) (by decide)

/-- A value whose literal is closed: only the digits of a decimal are written without quotes as they
are given. In a branch no text holds the mark of the select clause. -/
inductive Value.Tidy (inBranch : Bool) : Value → Prop where
  | null : Value.Tidy inBranch .null
  | bool (value : Bool) : Value.Tidy inBranch (.bool value)
  | int (value : Int) : Value.Tidy inBranch (.int value)
  | decimal {digits : String} (read : Value.isDecimal digits.toList = true) :
      Value.Tidy inBranch (.decimal digits)
  | text {value : String}
      (absent : inBranch = true → ¬ Gap.unionSelect.mark <:+: value.toList) :
      Value.Tidy inBranch (.text value)
  | date (value : Date) : Value.Tidy inBranch (.date value)
  | timestamp (value : Timestamp) : Value.Tidy inBranch (.timestamp value)
  | list {elements : List Value} (each : ∀ element ∈ elements, Value.Tidy inBranch element) :
      Value.Tidy inBranch (.list elements)

section

variable {inBranch : Bool}

theorem tidy_of_quoted_figures {opening text : String}
    (opens : scan ⟨false, 0⟩ opening.toList = some ⟨true, 0⟩ ∧ HashFree opening)
    (figures : Figures text) : Tidy inBranch (opening ++ text ++ "'") := by
  have inside := scan_of_neutral (neutral_of_figures figures) ⟨true, 0⟩
  refine ⟨?_, fun _ => sheltered_of_unmarked ?_⟩
  · rw [String.append_assoc, String.toList_append, String.toList_append, scan_append_of opens.1]
    exact scan_append_of inside ['\'']
  · exact (hash_free_of_quoted_figures _ opens.2 figures).unmarked

theorem tidy_of_enclosed_figures {text : String} (figures : Figures text) :
    Tidy inBranch ("#" ++ text ++ "#") := by
  refine ⟨?_, fun _ => sheltered_of_unmarked (unmarked_of_enclosed_figures figures)⟩
  have sign := fun state => scan_of_neutral (show Neutral "#".toList by decide) state
  rw [String.append_assoc, String.toList_append, String.toList_append, scan_append_of (sign _),
    scan_append_of (scan_of_neutral (neutral_of_figures figures) _)]
  exact sign _

theorem tidy_of_decimal {digits : String} (read : Value.isDecimal digits.toList = true) :
    Tidy inBranch digits := by
  have absent := fun c other => @Statement.not_mem_of_decimal _ read c other
  refine tidy_of_neutral ?_ (absent '#' (by decide))
  simp only [Neutral, List.forall_mem_cons]
  exact ⟨absent _ (by decide), absent _ (by decide), absent _ (by decide), nofun⟩

theorem tidy_literal (dialect : Dialect) {value : Value} (tidy : value.Tidy inBranch) :
    SqlComposer.Tidy inBranch (value.literal dialect) := by
  induction tidy with
  | null => exact (scans_of_word (by decide) : SqlComposer.Tidy inBranch "null")
  | bool value => cases dialect <;> cases value <;> exact scans_of_word (by decide)
  | int value => exact tidy_of_figures (figures_of_int value)
  | decimal read => exact tidy_of_decimal read
  | text absent => exact tidy_text_literal dialect absent
  | date value =>
      have figures := figures_of_date value
      cases dialect with
      | msAccess => exact tidy_of_enclosed_figures figures
      | _ => exact tidy_of_quoted_figures (by decide) figures
  | timestamp value =>
      cases dialect with
      | msAccess => exact tidy_of_enclosed_figures (figures_of_seconds value)
      | _ => exact tidy_of_quoted_figures (by decide) (figures_of_milliseconds value)
  | @list elements _ ih =>
      rw [Value.literal, Value.literals_eq_map]
      refine (tidy_join (scans_of_word (by decide)) fun text member => ?_).enclosed
      obtain ⟨element, inside, rfl⟩ := List.mem_map.mp member
      exact ih element inside

theorem Value.Tidy.elements {value : Value} (tidy : value.Tidy inBranch) :
    ∀ element ∈ value.effectiveElements, element.Tidy inBranch := by
  intro element member
  unfold Value.effectiveElements at member
  split at member
  · cases tidy with
    | list each => exact each element (List.mem_filter.mp member).1
  · split_ifs at member
    · cases member
    · rw [List.mem_singleton.mp member]
      exact tidy

/-! Clauses. -/

/-- What a comparison writes besides its column: its value, the pattern that a like option makes of
it, and the place that it is bound at. -/
structure Condition.Holder.Tidy (inBranch : Bool) (holder : Holder) (key : Key)
    (option? : Option LikeOption) : Prop where
  value : ∀ value, holder.value? key = some value → value.Tidy inBranch
  pattern : ∀ searched option, holder.value? key = some (.text searched) →
    option? = some option → inBranch = true →
      ¬ Gap.unionSelect.mark <:+: (option.pattern searched).toList
  location : ∀ location, holder.binding = .bound location → SqlComposer.Tidy inBranch location

/-- A quote as the escape character is doubled, any other character stands between quotes. -/
theorem tidy_escape_clause (option : LikeOption) : Tidy inBranch option.escapeClause := by
  unfold LikeOption.escapeClause
  split_ifs with quote
  · exact scans_of_word (by decide)
  · have opens : scan ⟨false, 0⟩ " escape '".toList = some ⟨true, 0⟩ := by decide
    have inside : scan ⟨true, 0⟩ [option.escape] = some ⟨true, 0⟩ := by
      simp [scan, scanChar, quote]
    have character : (String.ofList [option.escape]).toList = [option.escape] :=
      String.toList_ofList
    have closing : "'".toList = ['\''] := by decide
    have shape : (" escape '" ++ String.ofList [option.escape] ++ "'").toList =
        " escape '".toList ++ ([option.escape] ++ ['\'']) := by
      rw [String.append_assoc, String.toList_append, String.toList_append, character, closing]
    refine ⟨?_, fun _ => sheltered_of_absent fun present => ?_⟩
    · rw [shape, scan_append_of opens, scan_append_of inside]
      rfl
    · have long := present.length_le
      rw [shape] at long
      exact absurd long (by simp; decide)

theorem tidy_predicate (key : Key) {column operand : String} (named : Tidy inBranch column)
    (compared : Tidy inBranch operand) (option? : Option LikeOption) :
    Tidy inBranch (key.predicate column operand option?) := by
  have operator : ∀ key : Key, Tidy inBranch key.operator := by
    intro key
    cases key <;> exact scans_of_word (by decide)
  have space : Tidy inBranch " " := scans_of_word (by decide)
  have plain : Tidy inBranch (column ++ " " ++ key.operator ++ " " ++ operand) :=
    (((named.append space).append (operator key)).append space).append compared
  have folded : ∀ option : LikeOption, Tidy inBranch ("lower(" ++ column ++ ") " ++ key.operator ++
      " lower(" ++ operand ++ ")" ++ option.escapeClause) := by
    intro option
    have opens : Scans inBranch 0 1 "lower(" := scans_of_word (by decide)
    have closes : Scans inBranch 1 0 ") " := scans_of_word (by decide)
    have opensAgain : Scans inBranch 0 1 " lower(" := scans_of_word (by decide)
    have closesAgain : Scans inBranch 1 0 ")" := scans_of_word (by decide)
    have subject := (opens.append (named.inside 1)).append closes
    have search := ((subject.append (operator key)).append opensAgain).append (compared.inside 1)
    exact (search.append closesAgain).append (tidy_escape_clause option)
  cases key with
  | isNull | isNotNull => exact (named.append space).append (operator _)
  | isNullOrEmpty =>
      have opened := (scans_of_word (by decide) : Scans inBranch 0 1 "(").append (named.inside 1)
      have between : Scans inBranch 1 1 " is null or " := scans_of_word (by decide)
      have again := (opened.append between).append (named.inside 1)
      exact again.append (scans_of_word (by decide))
  | likeSearch | notLikeSearch =>
      cases option? with
      | none => exact plain
      | some option =>
          unfold Key.predicate
          dsimp only
          split_ifs
          · exact folded option
          · exact plain.append (tidy_escape_clause option)
  | equal | notEqual | greaterThan | greaterEqual | lessThan | lessEqual | inScope | notInScope =>
      exact plain

theorem tidy_joined {connector : String} (connects : Tidy inBranch connector)
    {clauses : List Clause} (each : ∀ clause ∈ clauses, Tidy inBranch clause.sql) :
    Tidy inBranch (Clause.joined connector clauses) :=
  tidy_join connects (List.forall_mem_map.mpr each)

theorem tidy_conjunction {clauses : List Clause}
    (each : ∀ clause ∈ clauses, Tidy inBranch clause.sql) :
    Tidy inBranch (Clause.joined " and " clauses) :=
  tidy_joined (scans_of_word (by decide)) each

section

variable {column : ColumnRef} (named : Tidy inBranch column.text)

include named

theorem tidy_list_clauses (key : Key) (mode : Mode) {value : Value} (tidy : value.Tidy inBranch) :
    ∀ clause ∈ key.listClauses mode column value, Tidy inBranch clause.sql := by
  have comma : Tidy inBranch ", " := scans_of_word (by decide)
  have parts : ∀ clause ∈ key.listParts mode column value, Tidy inBranch clause.sql := by
    intro clause member
    obtain ⟨part, rfl, each⟩ := Condition.mem_list_parts member
    refine tidy_predicate key named (tidy_join comma fun text inside => ?_).enclosed none
    obtain ⟨element, known, rfl⟩ := each text inside
    exact tidy_literal mode.dialect (tidy.elements element known)
  rcases Condition.list_clauses_cases key mode column value with
    same | ⟨connector, connects, same⟩
  · rw [same]
    exact parts
  · have word : Tidy inBranch connector := by
      rcases connects with rfl | rfl <;> exact scans_of_word (by decide)
    rw [same]
    intro clause member
    rw [List.mem_singleton.mp member]
    exact (tidy_joined word parts).enclosed

omit named in
theorem tidy_operand {key : Key} (dialect : Dialect) {option? : Option LikeOption}
    {holder : Holder} (tidy : holder.Tidy inBranch key option?) {value : Value}
    (known : holder.value? key = some value) {operand : String}
    (made : key.embeddedOperand dialect column value option? = .ok operand) :
    Tidy inBranch operand := by
  cases Condition.operand_of_accepted made with
  | literal _ => exact tidy_literal dialect (tidy.value value known)
  | pattern given searched =>
      exact tidy_text_literal dialect (tidy.pattern searched _ known given)

omit named in
theorem tidy_bind_comment (key : Key) {location dummy : String} (placed : Tidy inBranch location)
    (filled : Tidy inBranch dummy) : Tidy inBranch (key.bindComment location ++ dummy) := by
  have opened : Tidy inBranch "/*pmb." := scans_of_word (by decide)
  have point : Tidy inBranch "." := scans_of_word (by decide)
  have name : Tidy inBranch key.name := by cases key <;> exact scans_of_word (by decide)
  have ended : Tidy inBranch "*/" := scans_of_word (by decide)
  exact ((((opened.append placed).append point).append name).append ended).append filled

/-- Every clause of a comparison is closed, whatever the mode. -/
theorem tidy_clauses (key : Key) (mode : Mode) {holder : Holder} {option? : Option LikeOption}
    (tidy : holder.Tidy inBranch key option?) {clauses : List Clause}
    (made : key.clauses mode column holder option? = .ok clauses) :
    ∀ clause ∈ clauses, Tidy inBranch clause.sql := by
  have single : ∀ operand option?, Tidy inBranch operand →
      ∀ clause ∈ [Clause.bound column key operand option?], Tidy inBranch clause.sql := by
    intro operand option? compared clause member
    rw [List.mem_singleton.mp member]
    exact tidy_predicate key named compared option?
  cases Condition.compared_of_accepted made with
  | valueless _ => exact single "" none (scans_of_word (by decide))
  | ignored _ _ _ => exact List.forall_mem_nil _
  | comment _ _ _ bound =>
      have place := tidy.location _ (Condition.location_eq_some_iff.mp bound)
      have stands : Tidy inBranch key.placeholder := by
        cases key <;> exact scans_of_word (by decide)
      exact single _ option? (tidy_bind_comment key place stands)
  | list _ held _ _ => exact tidy_list_clauses named key mode (tidy.value _ held)
  | operand _ _ held _ _ written =>
      exact single _ option? (tidy_operand mode.dialect tidy held written)

end

theorem tidy_group {clauses : List Clause} (each : ∀ clause ∈ clauses, Tidy inBranch clause.sql) :
    Tidy inBranch (Condition.groupText clauses) := by
  unfold Condition.groupText
  split
  · exact each _ List.mem_cons_self
  · exact (tidy_conjunction each).enclosed

theorem tidy_disjunction {texts : List String} (each : ∀ text ∈ texts, Tidy inBranch text) :
    Tidy inBranch (Condition.disjunction texts) := by
  unfold Condition.disjunction
  split
  · exact each _ List.mem_cons_self
  · exact (tidy_join (scans_of_word (by decide)) each).enclosed

theorem mem_of_term_groups {clauses group : List Clause} {clause : Clause}
    (grouped : group ∈ Condition.termGroups clauses) (member : clause ∈ group) :
    clause ∈ clauses := by
  induction clauses generalizing group with
  | nil => cases grouped
  | cons first rest ih =>
      rw [Condition.termGroups] at grouped
      split at grouped
      · next next others groups shape =>
          rw [shape] at ih
          split_ifs at grouped
          all_goals
            simp only [List.mem_cons] at grouped
            rcases grouped with rfl | grouped
          · rcases List.mem_cons.mp member with rfl | later
            · exact List.mem_cons_self
            · exact List.mem_cons_of_mem _ (ih List.mem_cons_self later)
          · exact List.mem_cons_of_mem _ (ih (List.mem_cons_of_mem _ grouped) member)
          · rw [List.mem_singleton.mp member]
            exact List.mem_cons_self
          · exact List.mem_cons_of_mem _ (ih (List.mem_cons.mpr grouped) member)
      · rcases List.mem_cons.mp grouped with rfl | later
        · rw [List.mem_singleton.mp member]
          exact List.mem_cons_self
        · exact List.mem_cons_of_mem _ (ih later member)

/-- The terms of an or-scope and the clause that it leaves are closed when its clauses are. -/
theorem tidy_inherited :
    Condition.Inherited fun clause => Tidy inBranch clause.sql where
  part _ _ tidy := tidy
  flatten clauses _ each := by
    refine tidy_disjunction (List.forall_mem_map.mpr fun group grouped => ?_)
    exact tidy_group fun clause member => each clause (mem_of_term_groups grouped member)

end

end SqlComposer
