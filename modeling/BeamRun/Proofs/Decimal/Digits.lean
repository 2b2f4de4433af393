import Mathlib.Data.Nat.Digits.Defs
import Mathlib.Tactic.Ring
import BeamRun.Decimal

namespace BeamRun.Decimal

def AllDigits (cs : List Char) : Prop := ∀ c ∈ cs, c.isDigit = true

theorem AllDigits.append {cs ds : List Char} (first : AllDigits cs) (second : AllDigits ds) :
    AllDigits (cs ++ ds) := by
  intro c member
  rcases List.mem_append.mp member with member | member
  · exact first c member
  · exact second c member

theorem AllDigits.take {cs : List Char} (h : AllDigits cs) (n : Nat) : AllDigits (cs.take n) :=
  fun c member => h c (List.mem_of_mem_take member)

theorem AllDigits.drop {cs : List Char} (h : AllDigits cs) (n : Nat) : AllDigits (cs.drop n) :=
  fun c member => h c (List.mem_of_mem_drop member)

theorem allDigits_zeros (n : Nat) : AllDigits (List.replicate n '0') := by
  intro c member
  rw [List.eq_of_mem_replicate member]
  decide

theorem AllDigits.leftpad {cs : List Char} (h : AllDigits cs) (width : Nat) :
    AllDigits (cs.leftpad width '0') :=
  (allDigits_zeros _).append h

theorem AllDigits.not_mem {cs : List Char} {c : Char} (h : AllDigits cs) (other : c.isDigit = false) :
    c ∉ cs := by
  intro member
  rw [h c member] at other
  cases other

theorem AllDigits.newline_not_mem {cs : List Char} (h : AllDigits cs) : '\n' ∉ cs :=
  h.not_mem (by decide)

theorem digitValue_lt {c : Char} (digit : c.isDigit = true) : digitValue c < 10 := by
  have range := Char.isDigit_iff_toNat.mp digit
  have zero : '0'.toNat = 48 := rfl
  have nine : '9'.toNat = 57 := rfl
  unfold digitValue
  omega

@[simp] theorem valueAfter_nil (start : Nat) : valueAfter start [] = start := rfl

@[simp] theorem valueAfter_cons (start : Nat) (c : Char) (cs : List Char) :
    valueAfter start (c :: cs) = valueAfter (10 * start + digitValue c) cs :=
  List.foldl_cons ..

theorem valueAfter_append (start : Nat) (cs ds : List Char) :
    valueAfter start (cs ++ ds) = valueAfter (valueAfter start cs) ds :=
  List.foldl_append

theorem valueAfter_zeros (start n : Nat) :
    valueAfter start (List.replicate n '0') = start * 10 ^ n := by
  induction n generalizing start with
  | zero => simp
  | succ n ih =>
    have zero : digitValue '0' = 0 := rfl
    rw [List.replicate_succ, valueAfter_cons, ih, zero, Nat.add_zero, Nat.mul_comm 10, Nat.mul_assoc,
      Nat.pow_succ']

theorem le_valueAfter (start : Nat) (cs : List Char) : start ≤ valueAfter start cs := by
  induction cs generalizing start with
  | nil => exact Nat.le_refl start
  | cons c cs ih => exact Nat.le_trans (by omega) (ih (10 * start + digitValue c))

theorem valueAfter_lt {cs : List Char} (h : AllDigits cs) (start : Nat) :
    valueAfter start cs < (start + 1) * 10 ^ cs.length := by
  induction cs generalizing start with
  | nil => simp
  | cons c cs ih =>
    have digit : digitValue c < 10 := digitValue_lt (h c List.mem_cons_self)
    calc valueAfter start (c :: cs)
      _ < (10 * start + digitValue c + 1) * 10 ^ cs.length :=
        ih (fun d member => h d (List.mem_cons_of_mem c member)) _
      _ ≤ (start + 1) * 10 * 10 ^ cs.length := Nat.mul_le_mul_right _ (by omega)
      _ = (start + 1) * 10 ^ (c :: cs).length := by
        rw [List.length_cons, Nat.pow_succ', Nat.mul_assoc]

theorem valueAfter_eq (start : Nat) (cs : List Char) :
    valueAfter start cs = start * 10 ^ cs.length + value cs := by
  induction cs generalizing start with
  | nil => simp [value]
  | cons c cs ih =>
    have first := ih (10 * start + digitValue c)
    have second := ih (digitValue c)
    rw [value, valueAfter_cons, valueAfter_cons, first, Nat.mul_zero, Nat.zero_add, second,
      List.length_cons, Nat.pow_succ']
    ring

theorem value_append (cs ds : List Char) :
    value (cs ++ ds) = value cs * 10 ^ ds.length + value ds := by
  rw [value, valueAfter_append, valueAfter_eq]
  rfl

theorem value_lt {cs : List Char} (h : AllDigits cs) : value cs < 10 ^ cs.length := by
  have bound := valueAfter_lt h 0
  rwa [Nat.zero_add, Nat.one_mul] at bound

theorem value_take {cs : List Char} (h : AllDigits cs) (k : Nat) :
    value (cs.take k) = value cs / 10 ^ (cs.length - k) := by
  have parts := value_append (cs.take k) (cs.drop k)
  have rest := value_lt (h.drop k)
  rw [List.take_append_drop, List.length_drop] at parts
  rw [List.length_drop] at rest
  rw [parts, Nat.add_comm, Nat.add_mul_div_right _ _ (Nat.pow_pos (by decide)),
    Nat.div_eq_of_lt rest, Nat.zero_add]

theorem value_leftpad (width : Nat) (cs : List Char) : value (cs.leftpad width '0') = value cs := by
  rw [List.leftpad, value, valueAfter_append, valueAfter_zeros, Nat.zero_mul]
  rfl

theorem allDigits_digits (n : Nat) : AllDigits (digits n) :=
  fun _ member => Nat.isDigit_of_mem_toDigits (by decide) (by decide) member

theorem newline_not_mem_digits (n : Nat) : '\n' ∉ digits n := (allDigits_digits n).newline_not_mem

theorem ofInt_natCast (n : Nat) : ofInt n = digits n := by
  have positive : ¬ (n : Int) < 0 := by omega
  rw [ofInt, if_neg positive, Int.natAbs_natCast]

theorem newline_not_mem_ofInt (i : Int) : '\n' ∉ ofInt i := by
  rw [ofInt]
  split
  · simp [newline_not_mem_digits]
  · exact newline_not_mem_digits _

theorem value_digits (n : Nat) : value (digits n) = n := Nat.ofDigitChars_ten_toDigits

theorem length_digits_pos (n : Nat) : 0 < (digits n).length := Nat.length_toDigits_pos

theorem digits_ne_nil (n : Nat) : digits n ≠ [] := List.ne_nil_of_length_pos (length_digits_pos n)

theorem lt_pow_length_digits (n : Nat) : n < 10 ^ (digits n).length := by
  have bound := value_lt (allDigits_digits n)
  rwa [value_digits] at bound

theorem length_digits_le_iff {n k : Nat} (positive : 0 < k) :
    (digits n).length ≤ k ↔ n < 10 ^ k := by
  constructor
  · intro short
    exact Nat.lt_of_lt_of_le (lt_pow_length_digits n) (Nat.pow_le_pow_right (by decide) short)
  · intro small
    exact Nat.toDigits_length 10 n k positive small

section Padded

variable {width n : Nat}

theorem allDigits_padded (width n : Nat) : AllDigits (padded width n) := (allDigits_digits n).leftpad width

theorem value_padded (width n : Nat) : value (padded width n) = n := by
  rw [padded, value_leftpad, value_digits]

theorem length_padded (positive : 0 < width) (fits : n < 10 ^ width) : (padded width n).length = width := by
  rw [padded, List.length_leftpad]
  exact Nat.max_eq_left ((length_digits_le_iff positive).mpr fits)

theorem padded_ne_nil (width n : Nat) : padded width n ≠ [] := by
  intro none
  have length := congrArg List.length none
  have some := length_digits_pos n
  rw [padded, List.length_leftpad, List.length_nil] at length
  omega

end Padded

theorem head?_digits {n : Nat} (positive : 0 < n) : (digits n).head? ≠ some '0' := by
  induction n using Nat.strongRecOn with
  | _ n ih =>
    rw [digits, Nat.toDigits_eq_if (by decide)]
    by_cases one : n < 10
    · rw [if_pos one]
      intro same
      exact Nat.ne_of_gt positive (Nat.digitChar_eq_zero.mp (Option.some.inj same))
    · have some : (Nat.toDigits 10 (n / 10)).head?.isSome = true :=
        List.isSome_head?.mpr (digits_ne_nil _)
      rw [if_neg one, List.head?_append, Option.or_of_isSome some]
      exact ih (n / 10) (by omega) (by omega)

end BeamRun.Decimal
