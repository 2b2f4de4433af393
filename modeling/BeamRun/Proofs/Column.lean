import BeamRun.Card
import BeamRun.Proofs.Decimal.Digits

namespace BeamRun

namespace Column

open Decimal

/-- The field of a line with that number, counted from zero. -/
def field (k : Nat) (line : List Char) : List Char :=
  (line.drop (keywordWidth + k * fieldWidth)).take fieldWidth

theorem field_of_fields {head : List Char} {fields : List (List Char)}
    (start : head.length = keywordWidth) (wide : ∀ f ∈ fields, f.length = fieldWidth) (k : Nat) :
    field k (head ++ fields.flatten) = (fields[k]?).getD [] := by
  rw [field, ← start, List.drop_length_add_append]
  induction fields generalizing k with
  | nil => simp
  | cons f rest ih =>
    have here : f.length = fieldWidth := wide f List.mem_cons_self
    cases k with
    | zero => simp [← here]
    | succ k =>
      have later := ih (fun g member => wide g (List.mem_cons_of_mem f member)) k
      rw [List.flatten_cons, Nat.succ_mul, Nat.add_comm, ← here, List.drop_length_add_append, here,
        later, List.getElem?_cons_succ]

theorem length_flatten_fields {fields : List (List Char)}
    (wide : ∀ f ∈ fields, f.length = fieldWidth) :
    fields.flatten.length = fields.length * fieldWidth := by
  induction fields with
  | nil => rfl
  | cons f rest ih =>
    have later := ih fun g member => wide g (List.mem_cons_of_mem f member)
    rw [List.flatten_cons, List.length_append, wide f List.mem_cons_self, later, List.length_cons,
      Nat.succ_mul, Nat.add_comm]

theorem length_rightAligned {cs : List Char} (narrow : cs.length ≤ fieldWidth) :
    (rightAligned cs).length = fieldWidth := by
  rw [rightAligned, List.length_leftpad, Nat.max_eq_left narrow]

section Whole

def natural? (ds : List Char) : Option Nat :=
  if ds.isEmpty || !ds.all Char.isDigit then none else some (value ds)

def whole? (field : List Char) : Option Int :=
  match field.dropWhile (· = ' ') with
  | '-' :: ds => (natural? ds).map fun n => -Int.ofNat n
  | ds => (natural? ds).map Int.ofNat

theorem natural_read_back (n : Nat) : natural? (digits n) = some n := by
  have all : (digits n).all Char.isDigit = true := List.all_eq_true.mpr (allDigits_digits n)
  simp [natural?, all, digits_ne_nil, value_digits]

theorem strip_right_aligned {c : Char} {cs : List Char} (ink : c ≠ ' ') :
    (rightAligned (c :: cs)).dropWhile (· = ' ') = c :: cs := by
  rw [rightAligned, List.leftpad, List.dropWhile_append_of_pos]
  · simp [ink]
  · intro blank member
    simp [List.eq_of_mem_replicate member]

theorem whole_eq_some {i : Int} {field : List Char} (fits : whole i = some field) :
    field = rightAligned (ofInt i) ∧ field.length = fieldWidth := by
  simp only [whole] at fits
  split at fits
  · next exact =>
    cases fits
    exact ⟨rfl, exact⟩
  · cases fits

theorem whole_read_back {i : Int} {field : List Char} (fits : whole i = some field) :
    whole? field = some i := by
  rw [(whole_eq_some fits).1, ofInt]
  split
  · next negative =>
    rw [whole?, strip_right_aligned (by decide)]
    simp only [natural_read_back, Option.map_some, Option.some.injEq, Int.ofNat_eq_natCast]
    omega
  · next positive =>
    have magnitude : Int.ofNat i.natAbs = i := by
      rw [Int.ofNat_eq_natCast]
      omega
    obtain ⟨c, cs, first⟩ := List.exists_cons_of_ne_nil (digits_ne_nil i.natAbs)
    have digit : c.isDigit = true := allDigits_digits i.natAbs c (first ▸ List.mem_cons_self)
    have ink : c ≠ ' ' := fun same => by
      subst same
      cases digit
    rw [first, whole?, strip_right_aligned ink]
    split
    · next ds signed =>
      cases signed
      cases digit
    · rw [← first, natural_read_back, Option.map_some, magnitude]

theorem newline_not_mem_whole {i : Int} {field : List Char} (fits : whole i = some field) :
    '\n' ∉ field := by
  rw [(whole_eq_some fits).1, rightAligned, List.leftpad]
  simp [newline_not_mem_ofInt]

end Whole

section Real

/-- Blanks and one number behind them: perhaps a sign, digits, a point, and perhaps more digits. -/
inductive HoldsReal : List Char → Prop
  | intro (blanks : Nat) (negative : Bool) {whole fraction : List Char} (nonempty : whole ≠ [])
      (front : AllDigits whole) (back : AllDigits fraction) :
      HoldsReal (List.replicate blanks ' ' ++ (if negative then ['-'] else []) ++ whole ++
        '.' :: fraction)

theorem withoutTrailingZeros_append_cons (cs : List Char) {mark : Char} (other : mark ≠ '0')
    (ds : List Char) :
    withoutTrailingZeros (cs ++ mark :: ds) = cs ++ mark :: withoutTrailingZeros ds := by
  have kept : (ds.reverse ++ mark :: cs.reverse).dropWhile (· = '0') =
      ds.reverse.dropWhile (· = '0') ++ mark :: cs.reverse := by
    rw [List.dropWhile_append]
    split
    · next all => simp [List.isEmpty_iff.mp all, other]
    · rfl
  simp [withoutTrailingZeros, kept]

theorem withoutTrailingZeros_sublist (cs : List Char) : (withoutTrailingZeros cs).Sublist cs := by
  have dropped := (List.dropWhile_sublist (l := cs.reverse) fun c => decide (c = '0')).reverse
  rwa [List.reverse_reverse] at dropped

theorem point_not_mem_signed (x : Binary64) (n : Nat) : '.' ∉ signText x ++ digits n := by
  have digits : '.' ∉ digits n := (allDigits_digits n).not_mem (by decide)
  rw [signText]
  split
  · simp [digits]
  · simp [digits]

/-- A cut before the point takes it away, a cut behind it leaves it. -/
theorem point_mem_take_iff {cs : List Char} (without : '.' ∉ cs) (ds : List Char) (n : Nat) :
    '.' ∈ (cs ++ '.' :: ds).take n ↔ cs.length < n := by
  rw [List.take_append, List.mem_append]
  constructor
  · intro member
    rcases member with early | late
    · exact absurd (List.mem_of_mem_take early) without
    · by_contra long
      rw [Nat.sub_eq_zero_of_le (Nat.le_of_not_lt long)] at late
      cases late
  · intro short
    obtain ⟨k, rest⟩ := Nat.exists_eq_add_of_lt short
    have behind : n - cs.length = k + 1 := by omega
    rw [behind, List.take_succ_cons]
    exact .inr List.mem_cons_self

/-- A finite number before its point, and behind it to eight places. -/
def front (x : Binary64) : List Char :=
  signText x ++ digits (fixedUnits fieldWidth x / powerOfTen fieldWidth)

def back (x : Binary64) : List Char :=
  padded fieldWidth (fixedUnits fieldWidth x % powerOfTen fieldWidth)

theorem point_not_mem_front (x : Binary64) : '.' ∉ front x := point_not_mem_signed x _

/-- A number fits its field exactly when its point does; what stands behind the point may be cut. -/
theorem real_of_isFinite {x : Binary64} (finite : x.isFinite = true) :
    real x =
      if (front x).length < fieldWidth then
        some (rightAligned (front x ++
          '.' :: withoutTrailingZeros ((back x).take (fieldWidth - (front x).length - 1))))
      else none := by
  have text : fixedText fieldWidth x = front x ++ '.' :: back x := by
    simp only [fixedText, finite, if_true, front, back]
  have point := point_mem_take_iff (point_not_mem_front x) (back x) fieldWidth
  simp only [real, text, point]
  split
  · next short =>
    -- The point takes one of the characters that are left.
    have behind : fieldWidth - (front x).length = fieldWidth - (front x).length - 1 + 1 := by omega
    have cut : (front x ++ '.' :: back x).take fieldWidth =
        front x ++ '.' :: (back x).take (fieldWidth - (front x).length - 1) := by
      rw [List.take_append, List.take_of_length_le (Nat.le_of_lt short), behind, List.take_succ_cons,
        Nat.add_sub_cancel]
    rw [cut, withoutTrailingZeros_append_cons _ (by decide)]
  · rfl

theorem real_of_not_isFinite {x : Binary64} (infinite : x.isFinite = false) : real x = none := by
  have text : fixedText fieldWidth x = plain.text x := by simp [fixedText, infinite]
  have point : '.' ∉ (fixedText fieldWidth x).take fieldWidth := by
    intro member
    have there := List.mem_of_mem_take member
    rw [text, Layout.text, signText] at there
    simp only [infinite] at there
    cases nan : x.isNaN <;> cases sign : x.isNegative <;> simp [nan, sign] at there
  simp only [real, if_neg point]

theorem real_eq_some {x : Binary64} {field : List Char} (fits : real x = some field) :
    (front x).length < fieldWidth ∧ field = rightAligned (front x ++
      '.' :: withoutTrailingZeros ((back x).take (fieldWidth - (front x).length - 1))) := by
  cases finite : x.isFinite with
  | false =>
    rw [real_of_not_isFinite finite] at fits
    cases fits
  | true =>
    rw [real_of_isFinite finite] at fits
    split at fits
    · next short =>
      cases fits
      exact ⟨short, rfl⟩
    · cases fits

theorem length_of_real {x : Binary64} {field : List Char} (fits : real x = some field) :
    field.length = fieldWidth := by
  obtain ⟨short, rfl⟩ := real_eq_some fits
  have kept := (withoutTrailingZeros_sublist
    ((back x).take (fieldWidth - (front x).length - 1))).length_le
  apply length_rightAligned
  rw [List.length_append, List.length_cons]
  rw [List.length_take] at kept
  omega

theorem holdsReal_rightAligned (x : Binary64) (n : Nat) {fraction : List Char}
    (back : AllDigits fraction) :
    HoldsReal (rightAligned (signText x ++ digits n ++ '.' :: fraction)) := by
  have shape := HoldsReal.intro (fieldWidth - (signText x ++ digits n ++ '.' :: fraction).length)
    x.isNegative (digits_ne_nil n) (allDigits_digits n) back
  rwa [List.append_assoc, List.append_assoc, ← signText, ← List.append_assoc (signText x)] at shape

theorem holdsReal_of_real {x : Binary64} {field : List Char} (fits : real x = some field) :
    HoldsReal field := by
  obtain ⟨-, rfl⟩ := real_eq_some fits
  have behind : AllDigits (back x) := (allDigits_digits _).leftpad fieldWidth
  apply holdsReal_rightAligned x
  intro c member
  exact behind c (List.mem_of_mem_take ((withoutTrailingZeros_sublist _).subset member))

theorem HoldsReal.newline_not_mem {field : List Char} (holds : HoldsReal field) :
    '\n' ∉ field := by
  cases holds with
  | intro blanks negative _ front back =>
    cases negative <;> simp [front.newline_not_mem, back.newline_not_mem]

end Real

end Column
end BeamRun
