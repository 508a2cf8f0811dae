import SqlComposer.Proofs.OrScope
import SqlComposer.Proofs.Operand
import SqlComposer.Proofs.Refusals
import Mathlib.Data.List.Forall2

/-!
Conditions with and without the qualifier of their column. Taking the qualifier away from the text
of the one gives the text of the other: for every comparison, for the parts of a split list, and for
the clause that an or-scope becomes.
-/
namespace SqlComposer.Statement

open Condition (Clause Holder Key LikeOption Mode Target Terms)

section

variable {name : List Char} (base : BaseName name)

include base

theorem strips_with_operand (fixed : String) {column bare operand : String}
    (quiet : isQuiet fixed.toList = true) (apart : EndsName fixed.toList)
    (filled : fixed.toList ≠ []) (strips : Strips name column.toList bare.toList)
    (verbatim : Verbatim name operand.toList) :
    Strips name (column ++ fixed ++ operand).toList (bare ++ fixed ++ operand).toList := by
  have behind := Rewrites.after_quiet base _ quiet verbatim
  have whole := strips.append behind (ends_name_of_filled filled apart)
  simpa [String.toList_append] using whole

theorem strips_enclosed {text bare : String} (strips : Strips name text.toList bare.toList) :
    Rewrites name ("(" ++ text ++ ")").toList ("(" ++ bare ++ ")").toList := by
  have closing : Verbatim name [')'] := verbatim_of_quiet base (by decide)
  have inner := strips.append closing (by decide)
  have whole := Strips.after_quiet base ['('] (by decide) (fun _ => rfl) inner
  simpa [String.toList_append] using whole

theorem verbatim_of_escape_clause (option : LikeOption) :
    Verbatim name option.escapeClause.toList := by
  unfold LikeOption.escapeClause
  split_ifs with quote
  · have pair : Verbatim name ['\'', '\''] := verbatim_of_quoted name [] (by simp)
    have both := pair.append pair (by decide)
    exact Rewrites.after_quiet base " escape ".toList (by decide) both
  · have quoted := verbatim_of_quoted name [option.escape]
      (by simpa using Ne.symm quote)
    have whole := Rewrites.after_quiet base " escape ".toList (by decide) quoted
    simpa [String.toList_append] using whole

theorem strips_null_or_empty {column bare : String}
    (strips : Strips name column.toList bare.toList) :
    Strips name (Key.isNullOrEmpty.predicate column "" none).toList
      (Key.isNullOrEmpty.predicate bare "" none).toList := by
  have empty : Verbatim name ['\'', '\''] := verbatim_of_quoted name [] (by simp)
  have compared := Rewrites.after_quiet base " = ".toList (by decide) empty
  have second := strips.append compared (by decide)
  have behind := Strips.after_quiet base " is null or ".toList (by decide)
    (fun _ => rfl) second
  have both := strips.append behind (by simp [EndsName]; decide)
  have inner : Strips name (column ++ " is null or " ++ column ++ " = ''").toList
      (bare ++ " is null or " ++ bare ++ " = ''").toList := by
    simpa [String.toList_append] using both
  simpa [Key.predicate, String.toList_append] using (strips_enclosed base inner).strips

theorem strips_folded {column bare operand : String} {key : Key}
    (quiet : isQuiet (") " ++ key.operator ++ " lower(").toList = true)
    (strips : Strips name column.toList bare.toList) (verbatim : Verbatim name operand.toList)
    (option : LikeOption) :
    Strips name
      ("lower(" ++ column ++ ") " ++ key.operator ++ " lower(" ++ operand ++ ")" ++
        option.escapeClause).toList
      ("lower(" ++ bare ++ ") " ++ key.operator ++ " lower(" ++ operand ++ ")" ++
        option.escapeClause).toList := by
  have closing := Rewrites.after_quiet base [')'] (by decide)
    (verbatim_of_escape_clause base option)
  have folded := verbatim.append closing (by simp [EndsName]; decide)
  have compared := Rewrites.after_quiet base _ quiet folded
  have argument := strips.append compared (by simp [EndsName]; decide)
  have whole := Strips.after_quiet base "lower(".toList (by decide) (fun _ => rfl)
    argument
  simpa [String.toList_append] using whole.strips

theorem strips_pattern {key : Key} (like : key.isLike = true) {column bare operand : String}
    (strips : Strips name column.toList bare.toList) (verbatim : Verbatim name operand.toList)
    (option? : Option LikeOption) :
    Strips name (key.predicate column operand option?).toList
      (key.predicate bare operand option?).toList := by
  have quiet : isQuiet (" " ++ key.operator ++ " ").toList = true := by
    cases key with
    | likeSearch | notLikeSearch => decide
    | _ => cases like
  have between : isQuiet (") " ++ key.operator ++ " lower(").toList = true := by
    cases key with
    | likeSearch | notLikeSearch => decide
    | _ => cases like
  have plain := strips_with_operand base _ quiet (by simp [EndsName]; decide) (by simp)
    strips verbatim
  cases option? with
  | none =>
      have shape : ∀ text : String, key.predicate text operand none =
          text ++ " " ++ key.operator ++ " " ++ operand := by
        cases key with
        | likeSearch | notLikeSearch => exact fun _ => rfl
        | _ => cases like
      rw [shape, shape]
      simpa [String.toList_append] using plain
  | some option =>
      have shape : ∀ text : String, key.predicate text operand (some option) =
          if option.ignoresCase then
            "lower(" ++ text ++ ") " ++ key.operator ++ " lower(" ++ operand ++ ")" ++
              option.escapeClause
          else text ++ " " ++ key.operator ++ " " ++ operand ++ option.escapeClause := by
        cases key with
        | likeSearch | notLikeSearch => exact fun _ => rfl
        | _ => cases like
      rw [shape, shape]
      split_ifs
      · exact strips_folded base between strips verbatim option
      · have escaped := plain.append (verbatim_of_escape_clause base option)
          (by unfold LikeOption.escapeClause; split_ifs <;> simp [EndsName] <;> decide)
        simpa [String.toList_append] using escaped

/-- Every comparison of a column loses the column's qualifier and nothing else. -/
theorem strips_predicate (key : Key) {column bare operand : String}
    (strips : Strips name column.toList bare.toList) (verbatim : Verbatim name operand.toList)
    (option? : Option LikeOption) :
    Strips name (key.predicate column operand option?).toList
      (key.predicate bare operand option?).toList := by
  cases key with
  | likeSearch | notLikeSearch => exact strips_pattern base rfl strips verbatim option?
  | isNullOrEmpty => exact strips_null_or_empty base strips
  | isNull =>
      have word : Verbatim name "is null".toList := verbatim_of_quiet base (by decide)
      exact strips_with_operand base " " (by decide) (by decide) (by decide) strips word
  | isNotNull =>
      have word : Verbatim name "is not null".toList := verbatim_of_quiet base (by decide)
      exact strips_with_operand base " " (by decide) (by decide) (by decide) strips word
  | equal | notEqual | greaterThan | greaterEqual | lessThan | lessEqual | inScope | notInScope =>
      simpa [Key.predicate, String.toList_append] using
        strips_with_operand base (" " ++ Key.operator _ ++ " ") (by decide) (by decide)
          (by decide) strips verbatim

/-- Texts that lose a qualifier each lose it together as well. -/
theorem strips_join (separator : String) (quiet : isQuiet separator.toList = true)
    (apart : EndsName separator.toList) (filled : separator.toList ≠ [])
    (closes : ∀ last?, (lastAfter last? separator.toList).any isNameChar = false)
    {texts bares : List String}
    (each : List.Forall₂ (fun text bare => Strips name text.toList bare.toList) texts bares) :
    Strips name (Text.join separator texts).toList (Text.join separator bares).toList := by
  induction each with
  | nil => exact (verbatim_of_quiet base rfl).strips
  | @cons text bare texts bares first rest ih =>
      cases rest with
      | nil => exact first
      | @cons next other texts bares _ _ =>
          have behind := Strips.after_quiet base _ quiet closes ih
          have whole := first.append behind (ends_name_of_filled filled apart)
          change Strips name (text ++ separator ++ Text.join separator (next :: texts)).toList
            (bare ++ separator ++ Text.join separator (other :: bares)).toList
          simpa [String.toList_append] using whole

end

/-- A clause and one of the same and-part whose text is that of the first without the qualifier. -/
structure Unqualifies (name : List Char) (clause bare : Clause) : Prop where
  part : bare.andPart? = clause.andPart?
  strips : Strips name clause.sql.toList bare.sql.toList

theorem strips_joined {name : List Char} (base : BaseName name) (connector : String)
    (quiet : isQuiet connector.toList = true)
    (apart : EndsName connector.toList) (filled : connector.toList ≠ [])
    (closes : ∀ last?, (lastAfter last? connector.toList).any isNameChar = false)
    {clauses bares : List Clause} (each : List.Forall₂ (Unqualifies name) clauses bares) :
    Strips name (Clause.joined connector clauses).toList
      (Clause.joined connector bares).toList := by
  have texts : List.Forall₂ (fun text bare => Strips name text.toList bare.toList)
      (clauses.map Clause.sql) (bares.map Clause.sql) := by
    rw [List.forall₂_map_left_iff, List.forall₂_map_right_iff]
    exact each.imp fun _ _ unqualifies => unqualifies.strips
  exact strips_join base _ quiet apart filled closes texts

theorem split_unqualifies {name : List Char} (base : BaseName name) (key : Key) (mode : Mode)
    {parts bares : List Clause} (each : List.Forall₂ (Unqualifies name) parts bares) :
    List.Forall₂ (Unqualifies name)
      (if parts.length = 1 ∨ (key = .inScope ∧ mode.inOrScope ∧ ¬ mode.inAndPart) then parts
        else [.text ("(" ++
          Clause.joined (if key = .inScope then " or " else " and ") parts ++ ")")])
      (if bares.length = 1 ∨ (key = .inScope ∧ mode.inOrScope ∧ ¬ mode.inAndPart) then bares
        else [.text ("(" ++
          Clause.joined (if key = .inScope then " or " else " and ") bares ++ ")")]) := by
  rw [← each.length_eq]
  split_ifs
  · exact each
  · have either := strips_joined base " or " (by decide) (by decide) (by decide)
      (fun _ => rfl) each
    exact .cons ⟨rfl, (strips_enclosed base either).strips⟩ .nil
  · have both := strips_joined base " and " (by decide) (by decide) (by decide)
      (fun _ => rfl) each
    exact .cons ⟨rfl, (strips_enclosed base both).strips⟩ .nil

theorem strips_group {name : List Char} (base : BaseName name) {clauses bares : List Clause}
    (each : List.Forall₂ (Unqualifies name) clauses bares) :
    Strips name (Condition.groupText clauses).toList (Condition.groupText bares).toList := by
  have joined := strips_joined base " and " (by decide) (by decide) (by decide) (fun _ => rfl) each
  exact @Condition.group_text_related (fun text bare => Strips name text.toList bare.toList) _ _ _
    each (fun _ _ => Unqualifies.strips) (strips_enclosed base joined).strips

theorem strips_disjunction {name : List Char} (base : BaseName name) {texts bares : List String}
    (each : List.Forall₂ (fun text bare => Strips name text.toList bare.toList) texts bares) :
    Strips name (Condition.disjunction texts).toList (Condition.disjunction bares).toList := by
  have joined := strips_join base " or " (by decide) (by decide) (by decide) (fun _ => rfl) each
  exact Condition.disjunction_related each (strips_enclosed base joined).strips

/-- The clause that a closed or-scope leaves. -/
theorem flatten_unqualifies {name : List Char} (base : BaseName name) {clauses bares : List Clause}
    (each : List.Forall₂ (Unqualifies name) clauses bares) :
    Unqualifies name (Condition.flatten clauses) (Condition.flatten bares) := by
  have texts : List.Forall₂ (fun text bare => Strips name text.toList bare.toList)
      ((Condition.termGroups clauses).map Condition.groupText)
      ((Condition.termGroups bares).map Condition.groupText) := by
    rw [List.forall₂_map_left_iff, List.forall₂_map_right_iff]
    have groups := Condition.term_groups_related (fun _ _ => Unqualifies.part) each
    exact groups.imp fun _ _ => strips_group base
  exact ⟨rfl, strips_disjunction base texts⟩

/-- A holder whose decimals are decimals and whose place in a comment the removal leaves alone. -/
structure Harmless (name : List Char) (key : Key) (holder : Holder) : Prop where
  value : ∀ value, holder.value? key = some value → HasDecimals value
  location : ∀ location, holder.binding = .bound location →
    '\'' ∉ location.toList ∧ Text.hasMark name location.toList = false

section

variable {name : List Char} (base : BaseName name) {column bare : ColumnRef}
  (strips : Strips name column.text.toList bare.text.toList)

include base strips

theorem unqualifies_bound (key : Key) {operand : String} (verbatim : Verbatim name operand.toList)
    (option? : Option LikeOption) :
    Unqualifies name (.bound column key operand option?) (.bound bare key operand option?) :=
  ⟨rfl, strips_predicate base key strips verbatim option?⟩

theorem unqualifies_parts (key : Key) {parts : List (List String)}
    (verbatim : ∀ part ∈ parts, ∀ text ∈ part, Verbatim name text.toList) :
    List.Forall₂ (Unqualifies name)
      (parts.map fun part => .bound column key ("(" ++ Text.join ", " part ++ ")") none)
      (parts.map fun part => .bound bare key ("(" ++ Text.join ", " part ++ ")") none) := by
  rw [List.forall₂_map_left_iff, List.forall₂_map_right_iff, List.forall₂_same]
  intro part member
  have inner := verbatim_of_join base ", " (by decide) (by decide) (by decide)
    (verbatim part member)
  have operand := strips_enclosed base inner.strips
  exact unqualifies_bound base strips key operand none

theorem list_clauses_unqualify (key : Key) (mode : Mode) {value : Value}
    (sound : HasDecimals value) :
    List.Forall₂ (Unqualifies name) (key.listClauses mode column value)
      (key.listClauses mode bare value) := by
  refine split_unqualifies base key mode (unqualifies_parts base strips key ?_)
  intro part member text inside
  have found := List.mem_flatten.mpr ⟨part, member, inside⟩
  rw [Condition.flatten_chunks] at found
  obtain ⟨element, known, rfl⟩ := List.mem_map.mp found
  exact verbatim_of_value base mode.dialect element (elements_have_decimals sound element known)

theorem embedded_clauses_together (key : Key) (dialect : Dialect) {value : Value}
    (sound : HasDecimals value) (option? : Option LikeOption) :
    Together (List.Forall₂ (Unqualifies name))
      ((key.embeddedOperand dialect column value option?).map fun operand =>
        [.bound column key operand option?])
      ((key.embeddedOperand dialect bare value option?).map fun operand =>
        [.bound bare key operand option?]) := by
  have literal := verbatim_of_value base dialect value sound
  have pattern : ∀ text, Verbatim name (dialect.textLiteral text).toList := by
    intro text
    rw [Dialect.textLiteral, String.toList_ofList]
    exact verbatim_of_literal name dialect text.toList
  have accept : ∀ operand : String, Verbatim name operand.toList →
      Together (List.Forall₂ (Unqualifies name)) (.ok [.bound column key operand option?])
        (.ok [.bound bare key operand option?]) := fun operand verbatim =>
    .accepted (.cons (unqualifies_bound base strips key verbatim option?) .nil)
  unfold Key.embeddedOperand
  split_ifs with like
  · cases value with
    | text searched =>
        cases option? with
        | none => exact accept _ (pattern searched)
        | some option => exact accept _ (pattern (option.pattern searched))
    | _ => exact .refused
  · cases value with
    | list elements => exact .refused
    | _ => exact accept _ literal

/-- The same comparison of the bare column is refused when this one is, and has its clauses without
the qualifier otherwise. -/
theorem clauses_together (key : Key) (mode : Mode) {holder : Holder}
    (harmless : Harmless name key holder) (option? : Option LikeOption) :
    Together (List.Forall₂ (Unqualifies name)) (key.clauses mode column holder option?)
      (key.clauses mode bare holder option?) := by
  unfold Key.clauses
  by_cases misplaced : option?.isSome ∧ ¬ key.isLike
  · rw [if_pos misplaced, if_pos misplaced]
    exact .refused
  rw [if_neg misplaced, if_neg misplaced]
  by_cases valueless : ¬ key.needsValue
  · rw [if_pos valueless, if_pos valueless]
    have empty : Verbatim name "".toList := verbatim_of_quiet base rfl
    exact .accepted (.cons (unqualifies_bound base strips key empty none) .nil)
  · rw [if_neg valueless, if_neg valueless]
    cases found : (holder.value? key).filter fun value => !value.isEmpty with
    | none =>
        dsimp only
        split_ifs
        · exact .refused
        · exact .accepted .nil
    | some value =>
        have sound := harmless.value value (Option.filter_eq_some_iff.mp found).1
        cases binding : holder.binding with
        | embedded =>
            dsimp only
            split_ifs
            · exact .accepted (list_clauses_unqualify base strips key mode sound)
            · exact embedded_clauses_together base strips key mode.dialect sound option?
        | bound location =>
            obtain ⟨quoteless, absent⟩ := harmless.location location binding
            have comment : ∀ dummy : String, Verbatim name dummy.toList →
                Verbatim name (key.bindComment location ++ dummy).toList := fun _ =>
              verbatim_of_bind_comment base key absent quoteless
            have bind : ∀ dummy option?, Verbatim name dummy.toList →
                Unqualifies name (.bound column key (key.bindComment location ++ dummy) option?)
                  (.bound bare key (key.bindComment location ++ dummy) option?) :=
              fun dummy option? verbatim =>
                unqualifies_bound base strips key (comment dummy verbatim) option?
            have null : Verbatim name "null".toList := verbatim_of_quiet base (by decide)
            have nulls : Verbatim name "(null)".toList := verbatim_of_quiet base (by decide)
            have text : Verbatim name "'dummy'".toList :=
              verbatim_of_quoted name "dummy".toList (by decide)
            dsimp only
            split_ifs
            · exact .accepted (.cons (bind _ none nulls) .nil)
            · exact .accepted (.cons (bind _ option? text) .nil)
            · exact .accepted (.cons (bind _ option? null) .nil)

end

end SqlComposer.Statement
