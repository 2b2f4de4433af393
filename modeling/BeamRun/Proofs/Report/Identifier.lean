import BeamRun.Proofs.Decimal.Digits
import BeamRun.Report.Identifier

/-! Identifiers are read back from their text: thirty-two digits, whose value is what they were written
for, in groups between hyphens. -/

namespace BeamRun

namespace Decimal

def lowerHex : List Char := "0123456789abcdef".toList

theorem digitChar_lowerHex : ∀ d < 16, d.digitChar ∈ lowerHex ∧ hexDigitValue d.digitChar = d := by
  decide

theorem isHexDigit_of_lowerHex {c : Char} (lower : c ∈ lowerHex) :
    isHexDigit c = true ∧ c ≠ '-' ∧ c.utf8Size = 1 := by
  have listed : lowerHex.all fun c => isHexDigit c && c ≠ '-' && c.utf8Size = 1 := by decide
  have here := List.all_eq_true.mp listed c lower
  simp only [Bool.and_eq_true, decide_eq_true_eq] at here
  exact ⟨here.1.1, here.1.2, here.2⟩

theorem hexValue_append_singleton (cs : List Char) (c : Char) :
    hexValue (cs ++ [c]) = 16 * hexValue cs + hexDigitValue c := by
  rw [hexValue, List.foldl_append]
  rfl

/-- Hexadecimal digits are all lower-case ones, and write the number. -/
theorem hexDigits_spec (n : Nat) : (∀ c ∈ hexDigits n, c ∈ lowerHex) ∧ hexValue (hexDigits n) = n := by
  induction n using Nat.strongRecOn with
  | _ n ih =>
    rw [hexDigits, Nat.toDigits_eq_if (by decide)]
    by_cases one : n < 16
    · obtain ⟨lower, value⟩ := digitChar_lowerHex n one
      rw [if_pos one]
      refine ⟨fun c member => List.mem_singleton.mp member ▸ lower, ?_⟩
      simpa [hexValue] using value
    · obtain ⟨lower, value⟩ := digitChar_lowerHex (n % 16) (Nat.mod_lt n (by decide))
      obtain ⟨before, rest⟩ := ih (n / 16) (by omega)
      rw [hexDigits] at before rest
      rw [if_neg one, hexValue_append_singleton, rest, value]
      refine ⟨fun c member => ?_, by omega⟩
      rcases List.mem_append.mp member with earlier | last
      · exact before c earlier
      · exact List.mem_singleton.mp last ▸ lower

theorem hexValue_leftpad (width : Nat) (cs : List Char) :
    hexValue (cs.leftpad width '0') = hexValue cs := by
  have zeros (n : Nat) : (List.replicate n '0').foldl (fun n c => 16 * n + hexDigitValue c) 0 = 0 := by
    induction n with
    | zero => rfl
    | succ n ih => exact ih
  rw [List.leftpad, hexValue, List.foldl_append, zeros]
  rfl

end Decimal

theorem Text.byteCount_eq_length {cs : List Char} (single : ∀ c ∈ cs, c.utf8Size = 1) :
    Text.byteCount cs = cs.length := by
  induction cs with
  | nil => rfl
  | cons c cs ih =>
    rw [Text.byteCount, single c List.mem_cons_self, ih fun d member => single d (List.mem_cons_of_mem c member),
      List.length_cons, Nat.add_comm]

namespace Report.Identifier

open Decimal

def plainDigits (i : Identifier) : List Char := (hexDigits i.bits.toNat).leftpad 32 '0'

theorem plainDigits_lowerHex (i : Identifier) : ∀ c ∈ i.plainDigits, c ∈ lowerHex := by
  intro c member
  rcases List.mem_append.mp member with zero | digit
  · rw [List.eq_of_mem_replicate zero]
    decide
  · exact (hexDigits_spec _).1 c digit

theorem length_plainDigits (i : Identifier) : i.plainDigits.length = 32 := by
  have short : (hexDigits i.bits.toNat).length ≤ 32 :=
    (Nat.length_toDigits_le_iff (by decide) (by decide)).mpr i.bits.isLt
  rw [plainDigits, List.length_leftpad]
  exact Nat.max_eq_left short

theorem ofDigits_plainDigits (i : Identifier) : ofDigits i.plainDigits = i := by
  rw [ofDigits, plainDigits, hexValue_leftpad, (hexDigits_spec _).2, BitVec.ofNat_toNat]
  rfl

section Groups

variable {ds : List Char}

theorem hyphenated_eq (ds : List Char) :
    hyphenated ds = ds.take 8 ++ '-' :: ((ds.drop 8).take 4 ++ '-' :: (((ds.drop 12).take 4) ++ '-' ::
      ((ds.drop 16).take 4 ++ '-' :: (ds.drop 20).take 12))) := by
  simp [hyphenated, groupLengths, pieces, List.intercalate]

theorem length_hyphenated (full : ds.length = 32) : (hyphenated ds).length = 36 := by
  simp [hyphenated_eq, full]

theorem filter_hyphenated (full : ds.length = 32) (plain : ∀ c ∈ ds, c ≠ '-') :
    (hyphenated ds).filter (· ≠ '-') = ds := by
  have first : (ds.take 8).filter (· ≠ '-') = ds.take 8 :=
    List.filter_eq_self.mpr fun c member => by simpa using plain c (List.mem_of_mem_take member)
  have group (a b : Nat) : ((ds.drop a).take b).filter (· ≠ '-') = (ds.drop a).take b :=
    List.filter_eq_self.mpr fun c member => by
      simpa using plain c (List.mem_of_mem_drop (List.mem_of_mem_take member))
  have hyphen (front rest : List Char) :
      (front ++ '-' :: rest).filter (· ≠ '-') = front.filter (· ≠ '-') ++ rest.filter (· ≠ '-') := by
    simp
  have joined (a b : Nat) : (ds.drop a).take b ++ ds.drop (a + b) = ds.drop a := by
    rw [← List.drop_drop]
    exact List.take_append_drop b _
  have last : (ds.drop 20).take 12 = ds.drop 20 := List.take_of_length_le (by simp [full])
  rw [hyphenated_eq, hyphen, hyphen, hyphen, hyphen, first, group, group, group, group, last,
    joined 16 4, joined 12 4, joined 8 4, List.take_append_drop]

theorem mem_hyphenated {c : Char} (member : c ∈ hyphenated ds) : c ∈ ds ∨ c = '-' := by
  have group {a b : Nat} (inside : c ∈ (ds.drop a).take b) : c ∈ ds :=
    List.mem_of_mem_drop (List.mem_of_mem_take inside)
  simp only [hyphenated_eq, List.mem_append, List.mem_cons] at member
  rcases member with first | hyphen | second | hyphen | third | hyphen | fourth | hyphen | fifth
  · exact .inl (List.mem_of_mem_take first)
  · exact .inr hyphen
  · exact .inl (group second)
  · exact .inr hyphen
  · exact .inl (group third)
  · exact .inr hyphen
  · exact .inl (group fourth)
  · exact .inr hyphen
  · exact .inl (group fifth)

end Groups

theorem parse_text (i : Identifier) : parse i.text = .ok i := by
  have full := i.length_plainDigits
  have lower := i.plainDigits_lowerHex
  have size : Text.byteCount (hyphenated i.plainDigits) = 36 := by
    rw [Text.byteCount_eq_length, length_hyphenated full]
    intro c member
    rcases mem_hyphenated member with digit | rfl
    · exact (isHexDigit_of_lowerHex (lower c digit)).2.2
    · rfl
  have digits := filter_hyphenated full fun c member => (isHexDigit_of_lowerHex (lower c member)).2.1
  have hex : i.plainDigits.all isHexDigit = true :=
    List.all_eq_true.mpr fun c member => (isHexDigit_of_lowerHex (lower c member)).1
  have text : i.text.toList = hyphenated i.plainDigits := String.toList_ofList
  have long : ¬ ((hyphenated i.plainDigits).length = 32 ∧
      (hyphenated i.plainDigits).all isHexDigit = true) := by
    rw [length_hyphenated full]
    simp
  simp only [parse, text, if_neg long, groups?, size, if_true, digits, full, hex, and_self,
    ofDigits_plainDigits]

end Report.Identifier
end BeamRun
