import SqlComposer.Proofs.Figures
import SqlComposer.Proofs.HashFree
import SqlComposer.Statement.Unions
import Mathlib.Algebra.Group.Nat.Even

/-!
Reading a text from left to right, with its quotes paired and its parentheses counted outside quoted
parts. What is read piece by piece is read as a whole, and marks that are replaced outside quoted
parts by a text that is closed in itself leave the reading as it is.
-/
namespace SqlComposer

open Template (Gap Unmarked)
open Text (replaceChars)

/-- Where the reader of a text stands: in a quoted part or not, and in how many parentheses. -/
structure ScanState where
  quoted : Bool
  depth : Nat
  deriving DecidableEq

def scanChar (state : ScanState) (c : Char) : Option ScanState :=
  if c = '\'' then some { state with quoted := !state.quoted }
  else if state.quoted then some state
  else if c = '(' then some { state with depth := state.depth + 1 }
  else if c = ')' then
    if state.depth = 0 then none else some { state with depth := state.depth - 1 }
  else some state

/-- The state behind the characters, unless a parenthesis is closed that has not been opened. -/
def scan (state : ScanState) (chars : List Char) : Option ScanState := chars.foldlM scanChar state

/-- The quotes of a text pair up, and outside quoted parts its parentheses balance. -/
def Closed (text : String) : Prop := scan ⟨false, 0⟩ text.toList = some ⟨false, 0⟩

instance (text : String) : Decidable (Closed text) :=
  inferInstanceAs (Decidable (scan ⟨false, 0⟩ text.toList = some ⟨false, 0⟩))

section

variable {state next after : ScanState} {c : Char} {chars first : List Char}

theorem scan_cons (state : ScanState) (c : Char) (chars : List Char) :
    scan state (c :: chars) = (scanChar state c).bind fun next => scan next chars := by
  rw [scan, List.foldlM_cons]
  rfl

theorem scan_append_of (read : scan state first = some next) (second : List Char) :
    scan state (first ++ second) = scan next second := by
  rw [scan, List.foldlM_append]
  exact congrArg (Option.bind · fun next => scan next second) read

theorem scan_char_deeper (step : scanChar state c = some next) (extra : Nat) :
    scanChar ⟨state.quoted, state.depth + extra⟩ c = some ⟨next.quoted, next.depth + extra⟩ := by
  unfold scanChar at step ⊢
  dsimp only
  split_ifs at step ⊢ with _ _ _ _ none more
  all_goals
    obtain rfl := Option.some.inj step
    try exact rfl
  · exact congrArg (fun depth => some (ScanState.mk _ depth)) (Nat.add_right_comm _ _ _)
  · omega
  · exact congrArg (fun depth => some (ScanState.mk _ depth)) (by dsimp only; omega)

/-- Inside further parentheses a text is read in the same way. -/
theorem scan_deeper (read : scan state chars = some after) (extra : Nat) :
    scan ⟨state.quoted, state.depth + extra⟩ chars = some ⟨after.quoted, after.depth + extra⟩ := by
  induction chars generalizing state with
  | nil =>
      obtain rfl := Option.some.inj read
      rfl
  | cons c rest ih =>
      rw [scan_cons, Option.bind_eq_some_iff] at read
      obtain ⟨next, step, read⟩ := read
      rw [scan_cons, scan_char_deeper step]
      exact ih read

theorem scan_char_quoted (step : scanChar state c = some next) :
    next.quoted = if c = '\'' then !state.quoted else state.quoted := by
  unfold scanChar at step
  split_ifs at step ⊢
  all_goals rw [← Option.some.inj step]

/-- Whether the reader is in a quoted part tells whether it has passed the quotes in pairs. -/
theorem quoted_iff_even (read : scan state chars = some after) :
    after.quoted = state.quoted ↔ Even (chars.count '\'') := by
  induction chars generalizing state with
  | nil =>
      obtain rfl := Option.some.inj read
      simp
  | cons c rest ih =>
      rw [scan_cons, Option.bind_eq_some_iff] at read
      obtain ⟨next, step, read⟩ := read
      have later := ih read
      rw [scan_char_quoted step] at later
      split_ifs at later with quote
      · rw [quote, List.count_cons_self, Nat.even_add_one, ← later]
        cases after.quoted <;> cases state.quoted <;> simp
      · rw [List.count_cons_of_ne quote, ← later]

end

/-- A text in which the reader does nothing: it has neither quotes nor parentheses. -/
def Neutral (chars : List Char) : Prop := ∀ c ∈ ['\'', '(', ')'], c ∉ chars

instance (chars : List Char) : Decidable (Neutral chars) := List.decidableBAll _ _

theorem scan_of_neutral {chars : List Char} (neutral : Neutral chars) (state : ScanState) :
    scan state chars = some state := by
  induction chars with
  | nil => rfl
  | cons c rest ih =>
      have other : ∀ special ∈ ['\'', '(', ')'], c ≠ special := by
        rintro special member rfl
        exact neutral c member List.mem_cons_self
      have later : Neutral rest := fun special member present =>
        neutral special member (List.mem_cons_of_mem c present)
      have still : scanChar state c = some state := by
        simp only [List.forall_mem_cons] at other
        simp [scanChar, other.1, other.2.1, other.2.2.1]
      rw [scan_cons, still]
      exact ih later

/-- Replacing a mark by texts that leave the reader where it is does not change the reading. -/
theorem scan_replaced {mark replacement : List Char} (filled : mark ≠ [])
    (neutral : Neutral mark) {state : ScanState} {chars : List Char}
    (stays : ∀ before reached, before ++ mark <+: chars → scan state before = some reached →
      scan reached replacement = some reached) :
    scan state (replaceChars mark replacement chars) = scan state chars := by
  induction size : chars.length using Nat.strong_induction_on generalizing chars state with
  | _ bound ih =>
      cases chars with
      | nil => rfl
      | cons c rest =>
          by_cases present : mark <+: c :: rest
          · obtain ⟨later, shape⟩ := present
            have shorter : later.length < bound := by
              have some := List.length_pos_of_ne_nil filled
              rw [← size, ← shape, List.length_append]
              omega
            have passed := scan_of_neutral neutral state
            have here := stays [] state ⟨later, shape⟩ rfl
            rw [← shape, Text.replace_chars_mark filled, scan_append_of here,
              scan_append_of passed]
            refine ih _ shorter (fun before reached found read => ?_) rfl
            refine stays (mark ++ before) reached ?_ (by rw [scan_append_of passed, read])
            rw [← shape, List.append_assoc]
            exact (List.prefix_append_right_inj mark).mpr found
          · have absent : Text.afterMark? mark (c :: rest) = none := by
              by_contra found
              exact present (Text.after_mark_ne_none_iff.mp found)
            rw [Text.replace_chars_cons absent, scan_cons, scan_cons]
            cases step : scanChar state c with
            | none => rfl
            | some next =>
                have shorter : rest.length < bound := by
                  rw [← size, List.length_cons]
                  omega
                refine ih _ shorter (fun before reached found read => ?_) rfl
                refine stays (c :: before) reached (List.cons_prefix_cons.mpr ⟨rfl, found⟩) ?_
                rw [scan_cons, step]
                exact read

/-- The mark of a select clause stands outside quoted parts wherever it occurs. -/
def Sheltered (chars : List Char) : Prop :=
  ∀ before, before ++ Gap.unionSelect.mark <+: chars → Even (before.count '\'')

theorem sheltered_of_absent {chars : List Char} (absent : ¬ Gap.unionSelect.mark <:+: chars) :
    Sheltered chars := by
  rintro before ⟨after, shape⟩
  exact absurd ⟨before, after, shape⟩ absent

theorem sheltered_of_unmarked {chars : List Char} (unmarked : Unmarked chars) : Sheltered chars :=
  sheltered_of_absent (unmarked.no_mark .unionSelect)

/-- No mark goes over a quote, so one that starts before the end of a text whose quotes pair up and
ends behind it starts outside quoted parts. -/
theorem Sheltered.append {first second : List Char} (before : Sheltered first)
    (paired : Even (first.count '\'')) (after : Sheltered second) :
    Sheltered (first ++ second) := by
  rintro start ⟨rest, shape⟩
  rw [List.append_assoc] at shape
  rcases List.append_eq_append_iff.mp shape with ⟨inner, whole, shape⟩ | ⟨inner, rfl, rfl⟩
  · rcases List.append_eq_append_iff.mp shape with ⟨more, rfl, _⟩ | ⟨more, mark, _⟩
    · exact before start ⟨more, by rw [whole, List.append_assoc]⟩
    · have quoteless : '\'' ∉ Gap.unionSelect.mark := by decide
      have none : inner.count '\'' = 0 := by
        rw [mark] at quoteless
        exact List.count_eq_zero.mpr fun member => quoteless (List.mem_append_left _ member)
      rwa [whole, List.count_append, none, Nat.add_zero] at paired
  · have later := after inner ⟨rest, List.append_assoc _ _ _⟩
    rw [List.count_append]
    exact paired.add later

theorem scan_removed {text mark : String} (filled : mark.toList ≠ [])
    (neutral : Neutral mark.toList) (state : ScanState) :
    scan state (Text.replace text mark "").toList = scan state text.toList := by
  rw [Text.replace, String.toList_ofList]
  exact scan_replaced filled neutral fun _ _ _ _ => rfl

/-- A branch of a union is read as its text is, when the select clause that it is filled with is
closed and goes into no quoted part. -/
theorem UnionBranch.closed_filled {branch : UnionBranch} {select : String}
    (closed : Closed branch.text) (sheltered : Sheltered branch.text.toList)
    (selects : Closed select) : Closed (branch.filled select) := by
  have stays : ∀ before reached, before ++ Gap.unionSelect.mark <+: branch.text.toList →
      scan ⟨false, 0⟩ before = some reached → scan reached select.toList = some reached := by
    intro before reached found read
    have outside : reached.quoted = false := (quoted_iff_even read).mpr (sheltered before found)
    have inside := scan_deeper selects reached.depth
    obtain ⟨quoted, depth⟩ := reached
    obtain rfl := outside
    rwa [Nat.zero_add] at inside
  have filled : Closed (Text.replace branch.text Template.unionSelectGap select) := by
    have replaced := scan_replaced (by decide) (by decide) stays
    rw [Closed, Text.replace, String.toList_ofList]
    exact replaced.trans closed
  unfold UnionBranch.filled Template.closeGaps
  rw [Closed, scan_removed (by decide) (by decide), scan_removed (by decide) (by decide),
    scan_removed (by decide) (by decide)]
  exact filled

end SqlComposer
