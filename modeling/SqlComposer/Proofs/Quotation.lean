import SqlComposer.Proofs.Parts

/-!
The string literals of a text that is laid out. A literal is moved like everything else between two
marks, so one with a line break in it changes wherever its sub-query moves right, and only there.
-/
namespace SqlComposer.SubQuery

/-- Where a reader of string literals stands: outside of them, inside of one, or behind a quote that
may close a literal or be doubled. -/
inductive Reading where
  | outside
  | inside (held : List Char)
  | afterQuote (held : List Char)
  deriving DecidableEq

namespace Reading

def next : Reading → Char → Reading
  | outside, c => if c = '\'' then inside [] else outside
  | inside held, c => if c = '\'' then afterQuote held else inside (held ++ [c])
  | afterQuote held, c => if c = '\'' then inside (held ++ ['\'']) else outside

/-- The literal that is over once a character has been read. -/
def closedBy : Reading → Char → List (List Char)
  | afterQuote held, c => if c = '\'' then [] else [held]
  | _, _ => []

/-- The literal that the end of the text closes. -/
def pending : Reading → List (List Char)
  | outside => []
  | inside held => [held]
  | afterQuote held => [held]

def isInside : Reading → Bool
  | inside _ => true
  | _ => false

def map (change : List Char → List Char) : Reading → Reading
  | outside => outside
  | inside held => inside (change held)
  | afterQuote held => afterQuote (change held)

end Reading

def readingAfter (reading : Reading) (chars : List Char) : Reading :=
  chars.foldl Reading.next reading

/-- The literals that are over at the end of a text. -/
def closedIn : Reading → List Char → List (List Char)
  | _, [] => []
  | reading, c :: chars => reading.closedBy c ++ closedIn (reading.next c) chars

/-- The string literals of a text, from left to right and without their quotes. A doubled quote
inside of a literal is one of its characters. -/
def literals (chars : List Char) : List (List Char) :=
  closedIn .outside chars ++ (readingAfter .outside chars).pending

example : literals "a = 'b''c' or d = '' ".toList = ["b'c".toList, []] := by decide

/-- Whether every literal that starts in a text is closed in it. -/
def Closes (chars : List Char) : Prop := (readingAfter .outside chars).isInside = false

instance (chars : List Char) : Decidable (Closes chars) :=
  inferInstanceAs (Decidable ((readingAfter .outside chars).isInside = false))

theorem closed_in_append (reading : Reading) (first second : List Char) :
    closedIn reading (first ++ second) =
      closedIn reading first ++ closedIn (readingAfter reading first) second := by
  induction first generalizing reading with
  | nil => rfl
  | cons c chars ih =>
      rw [List.cons_append, closedIn, closedIn, ih, List.append_assoc]
      rfl

theorem reading_after_append (reading : Reading) (first second : List Char) :
    readingAfter reading (first ++ second) = readingAfter (readingAfter reading first) second :=
  List.foldl_append

/-- Behind a closed literal everything is read as behind no literal at all. -/
theorem literals_after_closed {reading : Reading} (closed : reading.isInside = false)
    {chars : List Char} (apart : chars.head? ≠ some '\'') :
    closedIn reading chars ++ (readingAfter reading chars).pending =
      reading.pending ++ literals chars := by
  cases reading with
  | outside => rfl
  | inside held => cases closed
  | afterQuote held =>
      cases chars with
      | nil => rfl
      | cons c chars =>
          have other : c ≠ '\'' := by simpa using apart
          simp [literals, closedIn, readingAfter, Reading.closedBy, Reading.next, Reading.pending,
            other]

/-- Only behind a quote at the end of a text can another quote be read as its second half. -/
theorem outside_of_closes {chars : List Char} (closes : Closes chars)
    (ends : chars.getLast? ≠ some '\'') : readingAfter .outside chars = .outside := by
  rcases List.eq_nil_or_concat chars with rfl | ⟨before, last, rfl⟩
  · rfl
  · rw [List.concat_eq_append] at closes ends ⊢
    have other : last ≠ '\'' := by simpa using ends
    have reading : readingAfter .outside (before ++ [last]) =
        (readingAfter .outside before).next last := reading_after_append _ _ _
    rw [Closes, reading] at closes
    rw [reading]
    cases earlier : readingAfter .outside before with
    | outside => exact if_neg other
    | afterQuote held => exact if_neg other
    | inside held =>
        have within : (Reading.inside held).next last = .inside (held ++ [last]) := if_neg other
        rw [earlier, within] at closes
        cases closes

theorem literals_append {first second : List Char} (closes : Closes first)
    (apart : first.getLast? = some '\'' → second.head? ≠ some '\'') :
    literals (first ++ second) = literals first ++ literals second := by
  have behind : closedIn (readingAfter .outside first) second ++
      (readingAfter (readingAfter .outside first) second).pending =
        (readingAfter .outside first).pending ++ literals second := by
    by_cases ends : first.getLast? = some '\''
    · exact literals_after_closed closes (apart ends)
    · rw [outside_of_closes closes ends]
      rfl
  rw [literals, closed_in_append, reading_after_append, List.append_assoc, behind,
    ← List.append_assoc]
  rfl

theorem outside_of_quoteless {chars : List Char} (quoteless : '\'' ∉ chars) :
    closedIn .outside chars = [] ∧ readingAfter .outside chars = .outside := by
  induction chars with
  | nil => exact ⟨rfl, rfl⟩
  | cons c chars ih =>
      rw [List.mem_cons, not_or] at quoteless
      have step : Reading.next .outside c = .outside := if_neg (Ne.symm quoteless.1)
      rw [readingAfter, List.foldl_cons, closedIn, step]
      exact ih quoteless.2

theorem inside_of_quoteless {chars : List Char} (quoteless : '\'' ∉ chars) (held : List Char) :
    closedIn (.inside held) chars = [] ∧
      readingAfter (.inside held) chars = .inside (held ++ chars) := by
  induction chars generalizing held with
  | nil => exact ⟨rfl, by rw [List.append_nil]; rfl⟩
  | cons c chars ih =>
      rw [List.mem_cons, not_or] at quoteless
      have step : Reading.next (.inside held) c = .inside (held ++ [c]) :=
        if_neg (Ne.symm quoteless.1)
      obtain ⟨closed, reading⟩ := ih quoteless.2 (held ++ [c])
      rw [readingAfter, List.foldl_cons, closedIn, step]
      exact ⟨closed, reading.trans (by rw [List.append_assoc]; rfl)⟩

/-- An indented character is read into an indented literal. -/
theorem reading_of_indented_char (column : Nat) (reading : Reading) (c : Char) :
    closedIn (reading.map (indentLines column)) (indentLines column [c]) =
        (reading.closedBy c).map (indentLines column) ∧
      readingAfter (reading.map (indentLines column)) (indentLines column [c]) =
        (reading.next c).map (indentLines column) := by
  by_cases broken : c = '\n'
  · subst broken
    have line : indentLines column ['\n'] = '\n' :: List.replicate column ' ' := by
      simp [indentLines]
    have quoteless : '\'' ∉ '\n' :: List.replicate column ' ' := by
      simp [List.mem_replicate]
    have blanks : '\'' ∉ List.replicate column ' ' := by simp [List.mem_replicate]
    rw [line]
    cases reading with
    | outside => exact outside_of_quoteless quoteless
    | inside held =>
        obtain ⟨closed, reading⟩ := inside_of_quoteless quoteless (indentLines column held)
        refine ⟨closed, reading.trans ?_⟩
        change _ = Reading.inside (indentLines column (held ++ ['\n']))
        rw [indent_lines_append, line]
    | afterQuote held =>
        obtain ⟨closed, reading⟩ := outside_of_quoteless blanks
        exact ⟨congrArg (indentLines column held :: ·) closed, reading⟩
  · have same : indentLines column [c] = [c] := by simp [indentLines, broken]
    rw [same]
    by_cases quote : c = '\''
    · subst quote
      cases reading with
      | outside => exact ⟨rfl, rfl⟩
      | inside held => exact ⟨rfl, rfl⟩
      | afterQuote held =>
          refine ⟨rfl, ?_⟩
          change Reading.inside (indentLines column held ++ ['\'']) =
            Reading.inside (indentLines column (held ++ ['\'']))
          rw [indent_lines_append, same]
    · cases reading with
      | outside => simp [closedIn, readingAfter, Reading.map, Reading.next, Reading.closedBy, quote]
      | inside held =>
          simp [closedIn, readingAfter, Reading.map, Reading.next, Reading.closedBy, quote,
            indent_lines_append, same]
      | afterQuote held =>
          simp [closedIn, readingAfter, Reading.map, Reading.next, Reading.closedBy, quote]

theorem reading_of_indented (column : Nat) (reading : Reading) (chars : List Char) :
    closedIn (reading.map (indentLines column)) (indentLines column chars) =
        (closedIn reading chars).map (indentLines column) ∧
      readingAfter (reading.map (indentLines column)) (indentLines column chars) =
        (readingAfter reading chars).map (indentLines column) := by
  induction chars generalizing reading with
  | nil => exact ⟨rfl, rfl⟩
  | cons c chars ih =>
      obtain ⟨closed, moved⟩ := reading_of_indented_char column reading c
      have split : indentLines column (c :: chars) =
          indentLines column [c] ++ indentLines column chars :=
        indent_lines_append column [c] chars
      obtain ⟨later, ends⟩ := ih (reading.next c)
      constructor
      · rw [split, closed_in_append, closed, moved, later, closedIn, List.map_append]
      · rw [split, reading_after_append, moved, ends]
        rfl

/-- The literals of indented lines are the indented literals. -/
theorem literals_of_indented (column : Nat) (chars : List Char) :
    literals (indentLines column chars) = (literals chars).map (indentLines column) := by
  obtain ⟨closed, reading⟩ := reading_of_indented column .outside chars
  change closedIn .outside _ = _ at closed
  change readingAfter .outside _ = _ at reading
  rw [literals, literals, closed, reading, List.map_append]
  cases readingAfter .outside chars <;> rfl

theorem closes_indented {chars : List Char} (closes : Closes chars) (column : Nat) :
    Closes (indentLines column chars) := by
  have reading := (reading_of_indented column .outside chars).2
  change readingAfter .outside _ = _ at reading
  rw [Closes, reading]
  rw [Closes] at closes
  cases ends : readingAfter .outside chars with
  | inside held => rw [ends] at closes; exact closes
  | outside => rfl
  | afterQuote held => rfl

theorem indent_lines_eq_iff (column : Nat) (chars : List Char) :
    indentLines column chars = chars ↔ column = 0 ∨ '\n' ∉ chars := by
  constructor
  · intro same
    have length := congrArg List.length same
    rw [length_of_indented, Nat.add_eq_left, Nat.mul_eq_zero, List.count_eq_zero] at length
    exact length
  · rintro (rfl | unbroken)
    · exact indent_lines_zero chars
    · induction chars with
      | nil => rfl
      | cons c chars ih =>
          rw [List.mem_cons, not_or] at unbroken
          rw [indent_lines_cons, if_neg (Ne.symm unbroken.1), ih unbroken.2]
          rfl

theorem head_of_indented (column : Nat) (chars : List Char) :
    (indentLines column chars).head? = chars.head? := by
  cases chars with
  | nil => rfl
  | cons c chars =>
      rw [indent_lines_cons]
      split_ifs with broken
      · rw [broken]
        rfl
      · rfl

theorem last_of_indented {column : Nat} {chars : List Char}
    (ends : chars.getLast? = some '\'') : (indentLines column chars).getLast? = some '\'' := by
  rcases List.eq_nil_or_concat chars with rfl | ⟨before, last, rfl⟩
  · cases ends
  · rw [List.concat_eq_append, List.getLast?_concat] at ends
    obtain rfl := Option.some.inj ends
    rw [List.concat_eq_append, indent_lines_append]
    exact List.getLast?_concat

namespace Part

/-- A text that closes its literals, or a mark whose identity has no quote. -/
def IsWhole : Part → Prop
  | text _ chars => Closes chars
  | mark chars => '\'' ∉ chars

/-- A part whose literals stay as they are: it does not move, or no literal has a line break. -/
def KeepsLiterals : Part → Prop
  | text shift chars => shift = 0 ∨ ∀ literal ∈ literals chars, '\n' ∉ literal
  | mark _ => True

instance : DecidablePred IsWhole
  | text _ chars => inferInstanceAs (Decidable (Closes chars))
  | mark chars => inferInstanceAs (Decidable ('\'' ∉ chars))

instance : DecidablePred KeepsLiterals
  | text shift chars =>
      inferInstanceAs (Decidable (shift = 0 ∨ ∀ literal ∈ literals chars, '\n' ∉ literal))
  | mark _ => inferInstanceAs (Decidable True)

theorem IsWhole.closes {part : Part} (whole : part.IsWhole) :
    Closes part.raw ∧ Closes part.shown := by
  cases part with
  | text shift chars => exact ⟨whole, closes_indented whole shift⟩
  | mark chars =>
      have outside := (outside_of_quoteless whole).2
      exact ⟨by rw [raw, Closes, outside]; rfl, rfl⟩

theorem IsWhole.last_of_shown {part : Part} (whole : part.IsWhole)
    (ends : part.raw.getLast? = some '\'') : part.shown.getLast? = some '\'' := by
  cases part with
  | text shift chars => exact last_of_indented ends
  | mark chars => exact absurd (List.mem_of_getLast? ends) whole

theorem literals_of_mark {chars : List Char} (quoteless : '\'' ∉ chars) : literals chars = [] := by
  obtain ⟨closed, reading⟩ := outside_of_quoteless quoteless
  rw [literals, closed, reading]
  rfl

theorem IsWhole.count {part : Part} (whole : part.IsWhole) :
    (literals part.shown).length = (literals part.raw).length := by
  cases part with
  | text shift chars => rw [shown, literals_of_indented, List.length_map]; rfl
  | mark chars => rw [raw, literals_of_mark whole]; rfl

theorem IsWhole.keeps_iff {part : Part} (whole : part.IsWhole) :
    literals part.shown = literals part.raw ↔ part.KeepsLiterals := by
  cases part with
  | text shift chars =>
      have fixed : (literals chars).map (indentLines shift) = literals chars ↔
          ∀ literal ∈ literals chars, indentLines shift literal = literal := by
        conv => lhs; rhs; rw [← List.map_id (literals chars)]
        exact List.map_inj_left
      rw [shown, raw, literals_of_indented, fixed, KeepsLiterals]
      simp only [indent_lines_eq_iff]
      by_cases still : shift = 0
      · simp [still]
      · simp [still]
  | mark chars =>
      rw [raw, literals_of_mark whole]
      exact ⟨fun _ => trivial, fun _ => rfl⟩

end Part

/-- No literal runs across a mark, and taking the marks away brings no two quotes together. -/
def Apart : List Part → Prop
  | [] => True
  | part :: rest =>
      part.IsWhole ∧ (part.shown.getLast? = some '\'' → (shownText rest).head? ≠ some '\'') ∧
        Apart rest

instance decidableApart : DecidablePred Apart
  | [] => inferInstanceAs (Decidable True)
  | part :: rest =>
      have := decidableApart rest
      inferInstanceAs (Decidable (part.IsWhole ∧
        (part.shown.getLast? = some '\'' → (shownText rest).head? ≠ some '\'') ∧ Apart rest))

theorem Apart.whole {parts : List Part} (apart : Apart parts) : ∀ part ∈ parts, part.IsWhole := by
  induction parts with
  | nil =>
      intro part member
      cases member
  | cons part rest ih => exact List.forall_mem_cons.mpr ⟨apart.1, ih apart.2.2⟩

/-- A quote that is the first character of a text is still the first when the marks are gone. -/
theorem Apart.head_of_shown {parts : List Part} (apart : Apart parts)
    (starts : (rawText parts).head? = some '\'') : (shownText parts).head? = some '\'' := by
  induction parts with
  | nil => cases starts
  | cons part rest ih =>
      change (part.raw ++ rawText rest).head? = _ at starts
      change (part.shown ++ shownText rest).head? = _
      rw [List.head?_append] at starts ⊢
      cases part with
      | text shift chars =>
          change (chars.head?.or _) = _ at starts
          change ((indentLines shift chars).head?.or _) = _
          rw [head_of_indented]
          cases chars with
          | nil => exact ih apart.2.2 starts
          | cons c chars => exact starts
      | mark chars =>
          cases chars with
          | nil => exact ih apart.2.2 starts
          | cons c chars =>
              have quote : c = '\'' := Option.some.inj starts
              exact absurd (quote ▸ List.mem_cons_self) apart.1

theorem Apart.literals_of_text {parts : List Part} (apart : Apart parts) :
    literals (rawText parts) = parts.flatMap (fun part => literals part.raw) ∧
      literals (shownText parts) = parts.flatMap (fun part => literals part.shown) := by
  induction parts with
  | nil => exact ⟨rfl, rfl⟩
  | cons part rest ih =>
      obtain ⟨whole, joint, later⟩ := apart
      obtain ⟨raw, shown⟩ := ih later
      have rawJoint : part.raw.getLast? = some '\'' → (rawText rest).head? ≠ some '\'' :=
        fun ends starts => joint (whole.last_of_shown ends) (later.head_of_shown starts)
      rw [List.flatMap_cons, List.flatMap_cons, ← raw, ← shown]
      exact ⟨literals_append whole.closes.1 rawJoint, literals_append whole.closes.2 joint⟩

theorem flat_map_eq_iff {α β : Type} {first second : α → List β} {items : List α}
    (count : ∀ item ∈ items, (first item).length = (second item).length) :
    items.flatMap first = items.flatMap second ↔ ∀ item ∈ items, first item = second item := by
  induction items with
  | nil => simp
  | cons item rest ih =>
      have later := ih fun other member => count other (List.mem_cons_of_mem _ member)
      rw [List.flatMap_cons, List.flatMap_cons, List.forall_mem_cons, ← later]
      constructor
      · intro same
        exact List.append_inj same (count item List.mem_cons_self)
      · rintro ⟨here, others⟩
        rw [here, others]

/-- Laying out a text keeps its string literals exactly when none of them has a line break inside of
a sub-query that moves right. -/
theorem literals_kept_iff {sql out : String} (laid : layout sql = .ok out) :
    (∃ parts, Parted 0 sql.toList parts) ∧
      ∀ parts, Parted 0 sql.toList parts → Apart parts →
        (literals out.toList = literals sql.toList ↔ ∀ part ∈ parts, part.KeepsLiterals) := by
  obtain ⟨chars, accepted, rfl⟩ := map_eq_ok laid
  refine ⟨parted_of_layout accepted, ?_⟩
  intro parts parted apart
  have shown : chars = shownText parts :=
    Except.ok.inj (accepted.symm.trans (layout_from_of_parted parted))
  have text := apart.literals_of_text
  rw [raw_text_of_parted parted] at text
  rw [String.toList_ofList, shown, text.1, text.2,
    flat_map_eq_iff fun part member => (apart.whole part member).count]
  exact forall₂_congr fun part member => (apart.whole part member).keeps_iff

/-- A sub-query behind a parenthesis, whose later lines move right by three columns. -/
def moved (body : Plain) : Forest :=
  .enclosed ⟨"a (", by decide, by decide⟩ ⟨"x", by decide⟩ (.text body)
    (.text ⟨")", by decide, by decide⟩)

theorem literals_kept_unless_broken :
    let plain := (moved ⟨"b\n'c'", by decide, by decide⟩).sql
    let broken := (moved ⟨"'p\nq'", by decide, by decide⟩).sql
    (layout plain = .ok "a (b\n   'c')" ∧
        literals "a (b\n   'c')".toList = literals plain.toList) ∧
      layout broken = .ok "a ('p\n   q')" ∧
        literals "a ('p\n   q')".toList ≠ literals broken.toList := by
  intro plain broken
  have plainLaid : layout plain = .ok "a (b\n   'c')" := by
    rw [layout, layout_from_forest]
    decide
  have brokenLaid : layout broken = .ok "a ('p\n   q')" := by
    rw [layout, layout_from_forest]
    decide
  have plainKept := (literals_kept_iff plainLaid).2 _ (parted_of_forest _ 0) (by decide +kernel)
  have brokenKept := (literals_kept_iff brokenLaid).2 _ (parted_of_forest _ 0) (by decide +kernel)
  exact ⟨⟨plainLaid, plainKept.mpr (by decide +kernel)⟩, brokenLaid,
    mt brokenKept.mp (by decide +kernel)⟩

theorem literal_with_line_break_moved :
    let sql := (moved ⟨"'p\nq'", by decide, by decide⟩).sql
    layout sql = .ok "a ('p\n   q')" ∧
      literals sql.toList = ["p\nq".toList] ∧
        literals "a ('p\n   q')".toList = ["p\n   q".toList] := by
  intro sql
  have laid : layout sql = .ok "a ('p\n   q')" := by
    rw [layout, layout_from_forest]
    decide
  exact ⟨laid, by decide +kernel, by decide +kernel⟩

end SqlComposer.SubQuery
