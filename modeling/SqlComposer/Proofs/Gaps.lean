import SqlComposer.Proofs.Replacement
import Mathlib.Logic.Function.Basic

/-!
Statements with gaps, cut into segments. Every gap comes after a space and no mark contains one, so
a mark is replaced segment by segment: in the segment of its gap, and nowhere else.
-/
namespace SqlComposer.Template

open Text (afterMark? replaceChars)

/-- What is still to come in a statement, or in a branch of its union. -/
inductive Gap where
  | whereClause
  | firstCondition
  | unionSelect
  | unionWhere
  | unionFirstCondition
  deriving DecidableEq

namespace Gap

def text : Gap → String
  | whereClause => whereGap
  | firstCondition => conditionGap
  | unionSelect => unionSelectGap
  | unionWhere => unionWhereGap
  | unionFirstCondition => unionConditionGap

def mark (gap : Gap) : List Char := gap.text.toList

/-- Whether a gap is for a whole where clause, which ends what it stands in. -/
def isWhole : Gap → Bool
  | whereClause | unionWhere => true
  | _ => false

/-- The letters of a mark between its start and its last character. -/
def word (gap : Gap) : List Char := (gap.mark.drop 4).dropLast

end Gap

/-- How the mark of every gap starts. -/
def stem : List Char := "#df:".toList

theorem stem_eq : stem = ['#', 'd', 'f', ':'] := by decide

theorem mark_eq (gap : Gap) : gap.mark = stem ++ gap.word ++ ['#'] := by
  cases gap <;> decide

theorem stem_prefix_mark (gap : Gap) : stem <+: gap.mark :=
  ⟨gap.word ++ ['#'], by rw [mark_eq, List.append_assoc]⟩

theorem space_not_in_mark (gap : Gap) : ' ' ∉ gap.mark := by
  cases gap <;> decide

theorem mark_ne_nil (gap : Gap) : gap.mark ≠ [] := by
  cases gap <;> decide

/-- The marks tell the gaps apart, whatever comes after them. -/
theorem eq_of_mark_at_start {gap other : Gap} {rest : List Char}
    (present : gap.mark <+: other.mark ++ rest) : gap = other := by
  have found := Text.after_mark_ne_none_iff.mpr present
  cases gap <;> cases other <;> first | rfl | exact absurd rfl found

/-- No mark of a gap starts in the text. -/
def Unmarked (chars : List Char) : Prop := ¬ stem <:+: chars

/-- The text has no number sign before its first space. -/
def WordFree (chars : List Char) : Prop := '#' ∉ chars.takeWhile (· ≠ ' ')

theorem Unmarked.no_mark {chars : List Char} (unmarked : Unmarked chars) (gap : Gap) :
    ¬ gap.mark <:+: chars := fun present =>
  unmarked ((stem_prefix_mark gap).isInfix.trans present)

theorem unmarked_of_hashless {chars : List Char} (free : '#' ∉ chars) : Unmarked chars := by
  intro present
  exact free (present.mem (by decide))

theorem Unmarked.behind {before after : List Char} (free : '#' ∉ before)
    (unmarked : Unmarked after) : Unmarked (before ++ after) := by
  intro present
  rcases List.infix_append_iff.mp present with
    inside | inside | ⟨first, second, shape, ends, starts⟩
  · exact unmarked_of_hashless free inside
  · exact unmarked inside
  · cases first with
    | nil => exact unmarked (shape ▸ starts.isInfix)
    | cons c first =>
        rw [stem_eq, List.cons_append, List.cons.injEq] at shape
        exact free (shape.1 ▸ ends.mem List.mem_cons_self)

theorem Unmarked.append {before after : List Char} {c : Char} (unmarked : Unmarked before)
    (apart : c ∉ stem.tail) (later : Unmarked (c :: after)) : Unmarked (before ++ c :: after) := by
  intro present
  exact (Text.infix_apart apart present).elim unmarked later

theorem word_free_of_hashless {chars : List Char} (free : '#' ∉ chars) : WordFree chars :=
  fun member => free (List.takeWhile_subset _ member)

theorem word_free_of_space (chars : List Char) : WordFree (' ' :: chars) := by
  simp [WordFree]

theorem WordFree.append {before after : List Char} (free : WordFree before)
    (later : WordFree after) : WordFree (before ++ after) := by
  unfold WordFree at *
  rw [List.takeWhile_append]
  split_ifs with whole
  · rw [List.mem_append, not_or]
    have all : before.takeWhile (· ≠ ' ') = before := by
      exact List.IsPrefix.eq_of_length (List.takeWhile_prefix _) whole
    exact ⟨all ▸ free, later⟩
  · exact free

/-- A gap, if there is one, and the text up to the next segment. -/
structure Segment where
  gap? : Option Gap
  rest : List Char

/-- A segment with the text that comes in place of its gap and of the space before it. -/
def Segment.write (fill : Gap → List Char) (segment : Segment) : List Char :=
  segment.gap?.elim [] fill ++ segment.rest

def write (fill : Gap → List Char) (segments : List Segment) : List Char :=
  segments.flatMap (Segment.write fill)

/-- Every gap still has its mark. -/
def unfilled (gap : Gap) : List Char := ' ' :: gap.mark

/-- Segments start with a space, that of their gap or their own, and the text after a gap has no
number sign in its first word, so that it does not make another mark of the one before it. -/
structure Segment.Fit (segment : Segment) : Prop where
  unmarked : Unmarked segment.rest
  free : WordFree segment.rest
  spaced : segment.gap? = none → ∃ chars, segment.rest = ' ' :: chars
  ends : ∀ gap, segment.gap? = some gap → gap.isWhole = true → segment.rest = []

/-- A gap with its mark, or filled by a text without number signs. Only a whole clause may be filled
by nothing at all. -/
inductive Settled (gap : Gap) : List Char → Prop where
  | unfilled : Settled gap (' ' :: gap.mark)
  | filled {chars : List Char} (free : '#' ∉ chars) : Settled gap (' ' :: chars)
  | closed (whole : gap.isWhole = true) : Settled gap []

/-- A segment is empty or starts with a space. -/
theorem Segment.Fit.write_cases {segment : Segment} (fit : segment.Fit) {fill : Gap → List Char}
    (settled : ∀ gap, Settled gap (fill gap)) :
    segment.write fill = [] ∨ ∃ chars, segment.write fill = ' ' :: chars := by
  obtain ⟨gap?, rest⟩ := segment
  cases gap? with
  | none => exact .inr (fit.spaced rfl)
  | some gap =>
      change fill gap ++ rest = [] ∨ ∃ chars, fill gap ++ rest = ' ' :: chars
      have shape := settled gap
      cases text : fill gap with
      | nil =>
          rw [text] at shape
          cases shape with
          | closed whole =>
              have none : rest = [] := fit.ends gap rfl whole
              exact .inl none
      | cons c chars =>
          rw [text] at shape
          cases shape <;> exact .inr ⟨_, rfl⟩

/-- The mark of a gap does not start in the mark of another one or behind it. -/
theorem no_other_mark {gap other : Gap} (different : gap ≠ other) {rest : List Char}
    (unmarked : Unmarked rest) (free : WordFree rest) :
    ¬ gap.mark <:+: ' ' :: other.mark ++ rest := by
  have starts : gap.mark = '#' :: gap.mark.tail := by cases gap <;> rfl
  have behind : ¬ gap.mark <:+: '#' :: rest := by
    rw [List.infix_cons_iff, not_or]
    refine ⟨fun present => ?_, unmarked.no_mark gap⟩
    rw [starts] at present
    obtain ⟨later, whole⟩ := (List.cons_prefix_cons.mp present).2
    have spaceless : ∀ c ∈ gap.mark.tail, decide (c ≠ ' ') = true := by
      rw [← List.all_eq_true]
      cases gap <;> decide
    have within : '#' ∈ gap.mark.tail := by cases gap <;> decide
    refine free ?_
    rw [← whole, List.takeWhile_append_of_pos spaceless]
    exact List.mem_append_left _ within
  have inside : '#' ∉ ('d' :: 'f' :: ':' :: other.word) := by cases other <;> decide
  have shape : ' ' :: other.mark ++ rest =
      ' ' :: '#' :: (('d' :: 'f' :: ':' :: other.word) ++ '#' :: rest) := by
    rw [mark_eq, stem_eq]
    simp
  intro present
  rw [shape, List.infix_cons_iff, List.infix_cons_iff] at present
  rcases present with first | second | later
  · rw [starts] at first
    exact absurd (List.cons_prefix_cons.mp first).1 (by decide)
  · have aligned : gap.mark <+: other.mark ++ rest := by
      rw [mark_eq other, stem_eq]
      simpa using second
    exact different (eq_of_mark_at_start aligned)
  · rcases List.infix_append_iff.mp later with word | last | ⟨left, right, split, ends, begins⟩
    · exact inside (word.mem (by rw [starts]; exact List.mem_cons_self))
    · exact behind last
    · cases left with
      | nil => exact behind (split ▸ begins.isInfix)
      | cons c left =>
          rw [starts, List.cons_append, List.cons.injEq] at split
          exact inside (split.1 ▸ ends.mem List.mem_cons_self)

/-- The mark of a gap that is filled already is nowhere in a segment. -/
theorem Segment.Fit.no_mark {segment : Segment} (fit : segment.Fit) {fill : Gap → List Char}
    (settled : ∀ gap, Settled gap (fill gap)) {gap : Gap}
    (filled : segment.gap? = some gap → fill gap ≠ ' ' :: gap.mark) :
    ¬ gap.mark <:+: segment.write fill := by
  obtain ⟨gap?, rest⟩ := segment
  cases gap? with
  | none => exact fit.unmarked.no_mark gap
  | some other =>
      change ¬ gap.mark <:+: fill other ++ rest
      have shape := settled other
      cases text : fill other with
      | nil => exact fit.unmarked.no_mark gap
      | cons c chars =>
          rw [text] at shape
          cases shape with
          | unfilled =>
              refine no_other_mark ?_ fit.unmarked fit.free
              rintro rfl
              exact filled rfl text
          | filled free =>
              have clean : '#' ∉ ' ' :: chars := by simpa using free
              exact (fit.unmarked.behind clean).no_mark gap

theorem Segment.Fit.replace {segment : Segment} (fit : segment.Fit) {fill : Gap → List Char}
    (settled : ∀ gap, Settled gap (fill gap)) {gap : Gap} (unfilled : fill gap = ' ' :: gap.mark)
    (replacement : List Char) :
    replaceChars gap.mark replacement (segment.write fill) =
        segment.write (Function.update fill gap (' ' :: replacement)) ∧
      replaceChars (' ' :: gap.mark) replacement (segment.write fill) =
        segment.write (Function.update fill gap replacement) := by
  by_cases here : segment.gap? = some gap
  · obtain ⟨_, rest⟩ := segment
    obtain rfl := here
    have absent : ¬ gap.mark <:+: rest := fit.unmarked.no_mark gap
    have spaced : ¬ ' ' :: gap.mark <:+: rest := fun present =>
      absent ((List.suffix_cons ' ' gap.mark).isInfix.trans present)
    have apart : afterMark? gap.mark (' ' :: (gap.mark ++ rest)) = none := by
      cases gap <;> rfl
    simp only [Segment.write, Option.elim_some, unfilled, Function.update_self, List.cons_append]
    constructor
    · rw [Text.replace_chars_cons apart, Text.replace_chars_mark (mark_ne_nil gap),
        Text.replace_chars_of_absent absent]
    · exact (Text.replace_chars_mark (List.cons_ne_nil _ _) rest).trans
        (by rw [Text.replace_chars_of_absent spaced])
  · have absent := fit.no_mark settled fun same => absurd same here
    have spaced : ¬ ' ' :: gap.mark <:+: segment.write fill := fun present =>
      absent ((List.suffix_cons ' ' gap.mark).isInfix.trans present)
    have same : ∀ text, segment.write (Function.update fill gap text) = segment.write fill := by
      intro text
      obtain ⟨gap?, rest⟩ := segment
      cases gap? with
      | none => rfl
      | some other =>
          have different : other ≠ gap := fun equal => here (congrArg some equal)
          simp only [Segment.write, Option.elim_some, Function.update_of_ne different]
    rw [Text.replace_chars_of_absent absent, Text.replace_chars_of_absent spaced, same, same]
    exact ⟨rfl, rfl⟩

/-- A mark with or without the space before it, which starts both and is nowhere else in them. -/
def IsForm (gap : Gap) (form : List Char) : Prop := form = gap.mark ∨ form = ' ' :: gap.mark

theorem IsForm.filled {gap : Gap} {form : List Char} (isForm : IsForm gap form) : form ≠ [] := by
  rcases isForm with rfl | rfl
  · exact mark_ne_nil gap
  · exact List.cons_ne_nil _ _

theorem IsForm.apart {gap : Gap} {form : List Char} (isForm : IsForm gap form) :
    ' ' ∉ form.tail := by
  rcases isForm with rfl | rfl
  · exact fun member => space_not_in_mark gap (List.mem_of_mem_tail member)
  · exact space_not_in_mark gap

theorem write_cons (fill : Gap → List Char) (segment : Segment) (rest : List Segment) :
    write fill (segment :: rest) = segment.write fill ++ write fill rest := List.flatMap_cons

theorem write_append (fill : Gap → List Char) (first second : List Segment) :
    write fill (first ++ second) = write fill first ++ write fill second := List.flatMap_append

theorem write_cases {fill : Gap → List Char} (settled : ∀ gap, Settled gap (fill gap))
    {segments : List Segment} (fit : ∀ segment ∈ segments, segment.Fit) :
    write fill segments = [] ∨ ∃ chars, write fill segments = ' ' :: chars := by
  induction segments with
  | nil => exact .inl rfl
  | cons segment rest ih =>
      rw [List.forall_mem_cons] at fit
      rw [write_cons]
      rcases fit.1.write_cases settled with empty | ⟨chars, shape⟩
      · rw [empty, List.nil_append]
        exact ih fit.2
      · rw [shape]
        exact .inr ⟨_, rfl⟩

/-- What is replaced segment by segment is replaced in the whole. -/
theorem replace_chars_write {fill : Gap → List Char} (settled : ∀ gap, Settled gap (fill gap))
    {gap : Gap} {form replacement : List Char} (isForm : IsForm gap form)
    {segments : List Segment} (fit : ∀ segment ∈ segments, segment.Fit) :
    replaceChars form replacement (write fill segments) =
      segments.flatMap fun segment => replaceChars form replacement (segment.write fill) := by
  induction segments with
  | nil => rfl
  | cons segment rest ih =>
      rw [List.forall_mem_cons] at fit
      rw [write_cons, List.flatMap_cons, ← ih fit.2]
      rcases write_cases settled fit.2 with empty | ⟨chars, shape⟩
      · rw [empty, Text.replace_chars_nil, List.append_nil, List.append_nil]
      · rw [shape]
        exact Text.replace_chars_append isForm.filled isForm.apart _ _

/-- Replacing the mark of a gap that is not filled yet fills it, wherever it is. -/
theorem replace_mark {fill : Gap → List Char} (settled : ∀ gap, Settled gap (fill gap)) {gap : Gap}
    (unfilled : fill gap = ' ' :: gap.mark) (replacement : List Char) {segments : List Segment}
    (fit : ∀ segment ∈ segments, segment.Fit) :
    replaceChars gap.mark replacement (write fill segments) =
      write (Function.update fill gap (' ' :: replacement)) segments := by
  rw [replace_chars_write settled (.inl rfl) fit]
  exact List.flatMap_congr fun segment member => ((fit segment member).replace settled unfilled _).1

theorem replace_spaced_mark {fill : Gap → List Char} (settled : ∀ gap, Settled gap (fill gap))
    {gap : Gap} (unfilled : fill gap = ' ' :: gap.mark) (replacement : List Char)
    {segments : List Segment} (fit : ∀ segment ∈ segments, segment.Fit) :
    replaceChars (' ' :: gap.mark) replacement (write fill segments) =
      write (Function.update fill gap replacement) segments := by
  rw [replace_chars_write settled (.inr rfl) fit]
  exact List.flatMap_congr fun segment member => ((fit segment member).replace settled unfilled _).2

/-- Nothing is left to replace for a gap that has been filled. -/
theorem replace_filled {fill : Gap → List Char} (settled : ∀ gap, Settled gap (fill gap))
    {gap : Gap} (filled : fill gap ≠ ' ' :: gap.mark) (replacement : List Char)
    {segments : List Segment} (fit : ∀ segment ∈ segments, segment.Fit) :
    replaceChars gap.mark replacement (write fill segments) = write fill segments := by
  rw [replace_chars_write settled (.inl rfl) fit]
  exact List.flatMap_congr fun segment member =>
    Text.replace_chars_of_absent ((fit segment member).no_mark settled fun _ => filled)

end SqlComposer.Template
