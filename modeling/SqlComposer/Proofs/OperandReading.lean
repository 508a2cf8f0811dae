import SqlComposer.Order.Basic
import SqlComposer.Proofs.LiteralReading
import SqlComposer.Proofs.Marks
import SqlComposer.Proofs.Operand

/-!
The numbers and the operands of a case expression as a database reads them. An operand ends at the
word behind it, which counts outside quoted parts only; no literal holds it there, so that every
literal is taken off as it was written.
-/
namespace SqlComposer.Order

open Text (afterMark?)

/-- Where the reader of an operand stands: outside quoted parts, inside one, or inside one behind a
character that escapes the next. -/
inductive Quoting where
  | outside
  | inside
  | escaped
  deriving DecidableEq

def Quoting.next (dialect : Dialect) : Quoting → Char → Quoting
  | outside, c => if c = '\'' then inside else outside
  | inside, c =>
    if c = '\'' then outside else if dialect.escapesNext c then escaped else inside
  | escaped, _ => inside

/-- An operand up to the word that stands behind it, outside quoted parts, and the text behind that
word. -/
def readOperand? (dialect : Dialect) (state : Quoting) : List Char → Option (List Char × List Char)
  | [] => none
  | c :: chars =>
    match if state = .outside then afterMark? " then ".toList (c :: chars) else none with
    | some rest => some ([], rest)
    | none =>
      (readOperand? dialect (state.next dialect c) chars).map (Dialect.readBehind [c])

def readNumber? (chars : List Char) : Option (Nat × List Char) :=
  match chars.takeWhile Char.isDigit with
  | [] => none
  | digits => some (Nat.ofDigitChars 10 digits 0, chars.dropWhile Char.isDigit)

/-- A number ends where these characters begin. -/
def EndsNumber (chars : List Char) : Prop := chars.head?.any (fun c => !c.isDigit) = true

theorem EndsNumber.append {front : List Char} (ends : EndsNumber front) (rest : List Char) :
    EndsNumber (front ++ rest) := by
  cases front with
  | nil => cases ends
  | cons c front => exact ends

theorem read_number (number : Nat) {tail : List Char} (ends : EndsNumber tail) :
    readNumber? ((toString number).toList ++ tail) = some (number, tail) := by
  have digits : (toString number).toList = Nat.toDigits 10 number := by simp
  have all_digits : ∀ c ∈ (toString number).toList, c.isDigit = true := chars_of_nat number
  have none_behind : tail.takeWhile Char.isDigit = [] ∧ tail.dropWhile Char.isDigit = tail := by
    cases tail with
    | nil => cases ends
    | cons c later =>
        have other : c.isDigit = false := by simpa [EndsNumber] using ends
        simp [other]
  have taken : ((toString number).toList ++ tail).takeWhile Char.isDigit =
      (toString number).toList := by
    rw [List.takeWhile_append_of_pos all_digits, none_behind.1, List.append_nil]
  have left : ((toString number).toList ++ tail).dropWhile Char.isDigit = tail := by
    rw [List.dropWhile_append_of_pos all_digits, none_behind.2]
  have some_digit : (toString number).toList ≠ [] := by
    rw [digits]
    exact Nat.toDigits_ne_nil
  unfold readNumber?
  rw [taken, left]
  cases shape : (toString number).toList with
  | nil => exact absurd shape some_digit
  | cons c later =>
      dsimp only
      rw [← shape, digits, Nat.ofDigitChars_ten_toDigits]

/-- A step of the reader over a character of an operand. Outside quoted parts there is no `h`, so
that the word behind the operand does not begin there. -/
def passChar (dialect : Dialect) (state : Quoting) (c : Char) : Option Quoting :=
  if state = .outside ∧ c = 'h' then none else some (state.next dialect c)

def Passes (dialect : Dialect) (before : Quoting) (chars : List Char) (after : Quoting) : Prop :=
  chars.foldlM (passChar dialect) before = some after

section

variable {dialect : Dialect} {before between after : Quoting} {chars first second : List Char}

theorem Passes.append (left : Passes dialect before first between)
    (right : Passes dialect between second after) :
    Passes dialect before (first ++ second) after := by
  rw [Passes, List.foldlM_append]
  exact (congrArg (Option.bind · fun state => second.foldlM (passChar dialect) state) left).trans
    right

theorem passes_cons {c : Char} :
    Passes dialect before (c :: chars) after ↔
      ¬ (before = .outside ∧ c = 'h') ∧ Passes dialect (before.next dialect c) chars after := by
  rw [Passes, List.foldlM_cons, passChar]
  split_ifs with ends
  · simp [ends]
  · simp [ends, Passes]

/-- The word behind an operand does not begin in it. -/
theorem no_word_in_operand {c : Char} (passes : Passes dialect .outside (c :: chars) after)
    (tail : List Char) :
    afterMark? " then ".toList (c :: chars ++ (" then ".toList ++ tail)) = none := by
  have word : " then ".toList = [' ', 't', 'h', 'e', 'n', ' '] := by decide
  rw [word]
  by_cases blank : c = ' '
  · subst blank
    cases chars with
    | nil => rfl
    | cons d chars =>
        by_cases letter : d = 't'
        · subst letter
          cases chars with
          | nil => rfl
          | cons e chars =>
              have outside := (passes_cons.mp (passes_cons.mp passes).2).2
              have other : e ≠ 'h' := fun same => (passes_cons.mp outside).1 ⟨rfl, same⟩
              simp [afterMark?, other.symm]
        · simp [afterMark?, Ne.symm letter]
  · simp [afterMark?, Ne.symm blank]

theorem read_operand (passes : Passes dialect before chars .outside) (tail : List Char) :
    readOperand? dialect before (chars ++ (" then ".toList ++ tail)) = some (chars, tail) := by
  induction chars generalizing before with
  | nil =>
      have here : before = .outside := Option.some.inj passes
      rw [here]
      rfl
  | cons c chars ih =>
      have later := ih (passes_cons.mp passes).2
      have absent : (if before = .outside then
          afterMark? " then ".toList (c :: chars ++ (" then ".toList ++ tail)) else none) =
            none := by
        split_ifs with outside
        · rw [outside] at passes
          exact no_word_in_operand passes tail
        · rfl
      rw [List.cons_append] at absent ⊢
      rw [readOperand?, absent]
      dsimp only
      rw [later]
      rfl

theorem passes_of_words (quoteless : '\'' ∉ chars) (wordless : 'h' ∉ chars) :
    Passes dialect .outside chars .outside := by
  induction chars with
  | nil => rfl
  | cons c chars ih =>
      rw [List.mem_cons, not_or] at quoteless wordless
      have still : Quoting.outside.next dialect c = .outside := if_neg (Ne.symm quoteless.1)
      apply passes_cons.mpr
      rw [still]
      exact ⟨fun ends => wordless.1 ends.2.symm, ih quoteless.2 wordless.2⟩

theorem passes_inside (quoteless : '\'' ∉ chars) (unescaped : '\\' ∉ chars) :
    Passes dialect .inside chars .inside := by
  induction chars with
  | nil => rfl
  | cons c chars ih =>
      rw [List.mem_cons, not_or] at quoteless unescaped
      have still : Quoting.inside.next dialect c = .inside := by
        simp [Quoting.next, Dialect.escapesNext, Ne.symm quoteless.1, Ne.symm unescaped.1]
      apply passes_cons.mpr
      rw [still]
      exact ⟨by simp, ih quoteless.2 unescaped.2⟩

theorem passes_of_figures {text : String} (figures : Figures text) :
    Passes dialect .outside text.toList .outside :=
  passes_of_words (figures.not_mem (by decide)) (figures.not_mem (by decide))

theorem figures_pass_inside {text : String} (figures : Figures text) :
    Passes dialect .inside text.toList .inside :=
  passes_inside (figures.not_mem (by decide)) (figures.not_mem (by decide))

theorem passes_of_quoted (text : List Char) :
    Passes dialect .outside (dialect.quotedChars text) .outside := by
  have each : ∀ c, Passes dialect .inside (dialect.quotedChar c) .inside := by
    intro c
    rw [Dialect.quoted_char_eq]
    split_ifs with doubled
    · rcases doubled with quote | escaping
      · rw [quote]
        rfl
      · have backslash := ((dialect.escapes_next_iff c).mp escaping).2
        have inner : Quoting.inside.next dialect c = .escaped := by
          simp [Quoting.next, backslash, backslash ▸ escaping]
        apply passes_cons.mpr
        rw [inner]
        exact ⟨by simp, rfl⟩
    · have still : Quoting.inside.next dialect c = .inside := by
        simp [Quoting.next, not_or.mp doubled]
      apply passes_cons.mpr
      rw [still]
      exact ⟨by simp, rfl⟩
  have all : Passes dialect .inside (text.flatMap dialect.quotedChar) .inside := by
    induction text with
    | nil => rfl
    | cons c text ih =>
        rw [List.flatMap_cons]
        exact (each c).append ih
  have opening : Passes dialect .outside ['\''] .inside := rfl
  have closing : Passes dialect .inside ['\''] .outside := rfl
  exact opening.append (all.append closing)

theorem passes_of_quoted_figures {opening text : String}
    (opens : Passes dialect .outside opening.toList .inside) (figures : Figures text) :
    Passes dialect .outside (opening ++ text ++ "'").toList .outside := by
  have closing : Passes dialect .inside "'".toList .outside := rfl
  rw [String.toList_append, String.toList_append]
  exact (opens.append (figures_pass_inside figures)).append closing

theorem passes_of_enclosed_figures {text : String} (figures : Figures text) :
    Passes dialect .outside ("#" ++ text ++ "#").toList .outside := by
  have sign : Passes dialect .outside "#".toList .outside := rfl
  rw [String.toList_append, String.toList_append]
  exact (sign.append (passes_of_figures figures)).append sign

theorem passes_of_join {texts : List String}
    (each : ∀ text ∈ texts, Passes dialect .outside text.toList .outside) :
    Passes dialect .outside (Text.join ", " texts).toList .outside := by
  have comma : Passes dialect .outside ", ".toList .outside := rfl
  fun_induction Text.join ", " texts with
  | case1 => rfl
  | case2 text => exact each text List.mem_cons_self
  | case3 text rest some ih =>
      rw [List.forall_mem_cons] at each
      rw [String.toList_append, String.toList_append]
      exact (each.1.append comma).append (ih each.2)

end

mutual

/-- The reader passes over every literal and is outside quoted parts behind it. -/
theorem passes_of_literal (dialect : Dialect) (value : Value)
    (sound : Statement.HasDecimals value) :
    Passes dialect .outside (value.literal dialect).toList .outside := by
  cases value with
  | null =>
      change Passes dialect .outside "null".toList .outside
      exact passes_of_words (by decide) (by decide)
  | bool value => cases dialect <;> cases value <;> rfl
  | int value => exact passes_of_figures (figures_of_int value)
  | decimal digits =>
      have absent := fun c other => @Statement.not_mem_of_decimal _ sound c other
      exact passes_of_words (absent _ (by decide)) (absent _ (by decide))
  | text value =>
      rw [Value.literal, Dialect.textLiteral, String.toList_ofList]
      exact passes_of_quoted value.toList
  | date value =>
      have figures := figures_of_date value
      cases dialect with
      | msAccess => exact passes_of_enclosed_figures figures
      | _ => exact passes_of_quoted_figures rfl figures
  | timestamp value =>
      cases dialect with
      | msAccess => exact passes_of_enclosed_figures (figures_of_seconds value)
      | _ => exact passes_of_quoted_figures rfl (figures_of_milliseconds value)
  | list elements =>
      have inner := passes_of_join (passes_of_literals dialect elements sound)
      have opening : Passes dialect .outside "(".toList .outside := rfl
      have closing : Passes dialect .outside ")".toList .outside := rfl
      rw [Value.literal, String.toList_append, String.toList_append]
      exact (opening.append inner).append closing

theorem passes_of_literals (dialect : Dialect) (values : List Value)
    (sound : Statement.AllHaveDecimals values) :
    ∀ text ∈ Value.literals dialect values, Passes dialect .outside text.toList .outside := by
  cases values with
  | nil => intro text member; cases member
  | cons value rest =>
      intro text member
      rcases List.mem_cons.mp member with rfl | later
      · exact passes_of_literal dialect value sound.1
      · exact passes_of_literals dialect rest sound.2 text later

end

end SqlComposer.Order
