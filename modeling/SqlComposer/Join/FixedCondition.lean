import SqlComposer.Dialect.Literal
import SqlComposer.OrderedMap
import SqlComposer.Text.Marks

/-!
Fixed conditions of relations. A relation may come with a condition that every join of it carries.
Its text names the two tables by alias variables and takes values from parameter references
`/*$name*/`, each of which may be followed by a dummy operand that keeps the text readable on its
own and goes away with the reference.
-/
namespace SqlComposer.FixedCondition

/-- What a fixed condition can refer to. -/
structure Scope where
  localAlias : String
  foreignAlias : String
  parameters : OrderedMap String Value
  dialect : Dialect

/-- A way to turn the fixed condition of a relation into the condition of one join. -/
def Resolver : Type := String → Scope → Except ClauseError String

/-- The text after a quoted dummy whose opening quote has been read. Two quotes stand for one quote
inside; when the text ends before a quote that closes, the last such pair is read as the closing
quote and a quote after the dummy. -/
def afterQuoted? : List Char → Option (List Char)
  | [] => none
  | '\'' :: '\'' :: rest =>
    match afterQuoted? rest with
    | some after => some after
    | none => some ('\'' :: rest)
  | '\'' :: rest => some rest
  | _ :: rest => afterQuoted? rest

def isDummyChar (c : Char) : Bool :=
  Text.isWord c || c == '.' || c == '+' || c == '-'

def afterDummy : List Char → List Char
  | '\'' :: rest => (afterQuoted? rest).getD ('\'' :: rest)
  | chars => chars.dropWhile isDummyChar

def reference? (chars : List Char) : Option (List Char × List Char) :=
  match Text.afterMark? ['/', '*', '$'] chars with
  | none => none
  | some rest =>
    if (rest.takeWhile Text.isWord).isEmpty then none
    else
      (Text.afterMark? ['*', '/'] (rest.dropWhile Text.isWord)).map fun after =>
        (rest.takeWhile Text.isWord, afterDummy after)

theorem length_afterQuoted? {chars after : List Char} (found : afterQuoted? chars = some after) :
    after.length ≤ chars.length := by
  fun_induction afterQuoted? chars with
  | case1 => simp at found
  | case2 rest inner found' ih =>
    simp only [Option.some.injEq] at found; subst found
    have := ih found'; simp only [List.length_cons]; omega
  | case3 rest found' ih => simp only [Option.some.injEq] at found; subst found; simp
  | case4 rest => simp only [Option.some.injEq] at found; subst found; simp
  | case5 c rest _ _ ih => have := ih found; simp only [List.length_cons]; omega

theorem length_afterDummy (chars : List Char) : (afterDummy chars).length ≤ chars.length := by
  unfold afterDummy
  split
  · next rest =>
    cases found : afterQuoted? rest with
    | none => simp
    | some after =>
      have := length_afterQuoted? found
      simp only [Option.getD_some, List.length_cons]; omega
  · exact (List.dropWhile_sublist _).length_le

theorem length_reference? {chars name rest : List Char}
    (found : reference? chars = some (name, rest)) : rest.length < chars.length := by
  unfold reference? at found
  split at found
  · simp at found
  · next opened started =>
    rw [Text.afterMark?_eq_some_iff] at started
    split at found
    · simp at found
    · simp only [Option.map_eq_some_iff, Prod.mk.injEq] at found
      obtain ⟨after, closed, -, rfl⟩ := found
      rw [Text.afterMark?_eq_some_iff] at closed
      have dropped : (opened.dropWhile Text.isWord).length ≤ opened.length :=
        (List.dropWhile_sublist _).length_le
      have dummy := length_afterDummy after
      rw [closed] at dropped
      simp only [List.length_append, List.length_cons, List.length_nil] at dropped
      rw [started]
      simp only [List.length_append, List.length_cons, List.length_nil]
      omega

/-- Puts the literal of its parameter for every reference. What has been put in is not read again.
-/
def substitute (condition : String) (scope : Scope) (chars : List Char) :
    Except ClauseError (List Char) :=
  match chars with
  | [] => .ok []
  | c :: rest =>
    match _found : reference? (c :: rest) with
    | some (name, after) =>
      match scope.parameters.find? (String.ofList name) with
      | none =>
        .error (.illegalArgument (.unknownParameter (String.ofList name) condition))
      | some value =>
        (substitute condition scope after).map ((value.literal scope.dialect).toList ++ ·)
    | none => (substitute condition scope rest).map (c :: ·)
termination_by chars.length
decreasing_by
  · exact length_reference? _found
  · simp

def nameTables (scope : Scope) (condition : String) : String :=
  let foreignNamed :=
    Text.replace (Text.replace condition "$$foreignAlias$$" scope.foreignAlias) "$$alias$$"
      scope.foreignAlias
  Text.replace foreignNamed "$$localAlias$$" scope.localAlias

def resolve : Resolver := fun condition scope =>
  (substitute condition scope (nameTables scope condition).toList).map String.ofList

end SqlComposer.FixedCondition
