import SqlComposer.Value.Temporal
import Mathlib.Tactic.SplitIfs

/-!
The characters of numbers, dates and times: digits, signs and what separates them.
-/
namespace SqlComposer

def isFigure (c : Char) : Bool :=
  c.isDigit || c == '-' || c == '+' || c == '.' || c == ':' || c == ' '

def Figures (text : String) : Prop := ∀ c ∈ text.toList, isFigure c = true

theorem Figures.not_mem {text : String} (figures : Figures text) {c : Char}
    (other : isFigure c = false) : c ∉ text.toList := by
  intro member
  rw [figures c member] at other
  cases other

theorem Figures.append {first second : String} (before : Figures first)
    (after : Figures second) : Figures (first ++ second) := by
  intro c member
  rw [String.toList_append, List.mem_append] at member
  exact member.elim (before c) (after c)

theorem chars_of_nat (number : Nat) : ∀ c ∈ (toString number).toList, c.isDigit = true := by
  intro c member
  have digits : (toString number).toList = Nat.toDigits 10 number := by simp
  rw [digits] at member
  exact Nat.isDigit_of_mem_toDigits (by decide) (by decide) member

theorem chars_of_int (number : Int) :
    ∀ c ∈ (toString number).toList, c.isDigit = true ∨ c = '-' := by
  cases number with
  | ofNat number => exact fun c member => .inl (chars_of_nat number c member)
  | negSucc number =>
      have shape : (toString (Int.negSucc number)).toList =
          '-' :: (toString (number + 1)).toList := by
        change ("-" ++ toString (number + 1)).toList = _
        simp [String.toList_append]
      rw [shape]
      intro c member
      rcases List.mem_cons.mp member with sign | digit
      · exact .inr sign
      · exact .inl (chars_of_nat _ c digit)

theorem figures_of_nat (number : Nat) : Figures (toString number) := by
  intro c member
  simp [isFigure, chars_of_nat number c member]

theorem figures_of_int (number : Int) : Figures (toString number) := by
  intro c member
  rcases chars_of_int number c member with digit | rfl
  · simp [isFigure, digit]
  · decide

theorem figures_of_last_digits (width number : Nat) :
    ∀ c ∈ lastDigits width number, isFigure c = true := by
  induction width generalizing number with
  | zero => exact fun c member => nomatch member
  | succ width ih =>
      intro c member
      rw [lastDigits, List.mem_append, List.mem_singleton] at member
      rcases member with before | rfl
      · exact ih _ c before
      · have digits : ∀ digit < 10, isFigure (Char.ofNat (48 + digit)) = true := by decide
        exact digits _ (Nat.mod_lt _ (by decide))

theorem figures_of_padded (width number : Nat) : Figures (zeroPadded width number) := by
  unfold zeroPadded
  split_ifs
  · intro c member
    rw [String.toList_ofList] at member
    exact figures_of_last_digits width number c member
  · exact figures_of_nat number

theorem figures_of_mark {text : String} (all : text.toList.all isFigure = true) : Figures text :=
  List.all_eq_true.mp all

theorem figures_of_year (year : Int) : Figures (yearText year) := by
  unfold yearText
  split_ifs
  · exact figures_of_padded 4 _
  · exact (figures_of_mark (by decide)).append (figures_of_padded 4 _)
  · exact (figures_of_mark (by decide)).append (figures_of_padded 4 _)

theorem figures_of_date (date : Date) : Figures date.text := by
  have dash : Figures "-" := figures_of_mark (by decide)
  have month := ((figures_of_year date.year).append dash).append (figures_of_padded 2 date.month)
  exact (month.append dash).append (figures_of_padded 2 date.day)

theorem figures_of_seconds (moment : Timestamp) : Figures moment.secondsText := by
  have space : Figures " " := figures_of_mark (by decide)
  have colon : Figures ":" := figures_of_mark (by decide)
  have hour := ((figures_of_date moment.date).append space).append (figures_of_padded 2 moment.hour)
  have minute := (hour.append colon).append (figures_of_padded 2 moment.minute)
  exact (minute.append colon).append (figures_of_padded 2 moment.shownSecond)

theorem figures_of_milliseconds (moment : Timestamp) : Figures moment.millisecondsText :=
  ((figures_of_seconds moment).append (figures_of_mark (by decide))).append
    (figures_of_padded 3 moment.millisecond)

end SqlComposer
