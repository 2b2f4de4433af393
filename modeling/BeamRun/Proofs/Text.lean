import Mathlib.Algebra.Group.Nat.Defs
import BeamRun.Text

namespace BeamRun.Text

theorem split_of_not_mem {sep : Char} {cs : List Char} (one : sep ∉ cs) : split sep cs = [cs] := by
  induction cs with
  | nil => rfl
  | cons c cs ih =>
    have other : c ≠ sep := fun same => one (same ▸ List.mem_cons_self)
    have later := ih fun member => one (List.mem_cons_of_mem c member)
    rw [split, if_neg other, later]

theorem split_append_cons {sep : Char} {line : List Char} (one : sep ∉ line) (rest : List Char) :
    split sep (line ++ sep :: rest) = line :: split sep rest := by
  induction line with
  | nil => simp [split]
  | cons c cs ih =>
    have other : c ≠ sep := fun same => one (same ▸ List.mem_cons_self)
    have later := ih fun member => one (List.mem_cons_of_mem c member)
    rw [List.cons_append, split, if_neg other, later]

theorem length_split (sep : Char) (cs : List Char) : (split sep cs).length = cs.count sep + 1 := by
  induction cs with
  | nil => rfl
  | cons c cs ih =>
    by_cases here : c = sep
    · simp [split, here, ih]
    · cases later : split sep cs with
      | nil => simp [later] at ih
      | cons piece pieces => simpa [split, here, later] using ih

theorem split_flatMap {α : Type} {sep : Char} (line : α → List Char) {as : List α}
    (one : ∀ a ∈ as, sep ∉ line a) :
    split sep (as.flatMap fun a => line a ++ [sep]) = as.map line ++ [[]] := by
  induction as with
  | nil => rfl
  | cons a as ih =>
    have later := ih fun b member => one b (List.mem_cons_of_mem a member)
    rw [List.flatMap_cons, List.append_assoc, List.singleton_append,
      split_append_cons (one a List.mem_cons_self), later, List.map_cons, List.cons_append]

/-! Texts in the order of their characters are in the order of the bytes in which they are stored: the
first byte of a character grows with it, and the bytes that follow write the rest in base 64. -/

def bytes (s : String) : List UInt8 := s.toUTF8.data.toList

/-- The last digits of a number in base 64, each in a byte with the mark of those that follow another. -/
def sextets : Nat → Nat → List UInt8
  | 0, _ => []
  | k + 1, v => UInt8.ofNat (v / 64 ^ k % 64 + 0x80) :: sextets k v

/-- The number of bytes that follow the first one of a character, and this first one. -/
inductive Leads (v : Nat) : Nat → Nat → Prop
  | alone (high : v ≤ 0x7f) : Leads v 0 v
  | one (low : 0x7f < v) (high : v ≤ 0x7ff) : Leads v 1 (v / 64 + 0xc0)
  | two (low : 0x7ff < v) (high : v ≤ 0xffff) : Leads v 2 (v / 4096 + 0xe0)
  | three (low : 0xffff < v) (high : v < 0x110000) : Leads v 3 (v / 262144 + 0xf0)

theorem toNat_lt (c : Char) : c.val.toNat < 0x110000 := by
  have valid := c.valid
  simp only [UInt32.isValidChar, Nat.isValidChar] at valid
  omega

theorem exists_leads (c : Char) :
    ∃ k lead, Leads c.val.toNat k lead ∧
      String.utf8EncodeChar c = UInt8.ofNat lead :: sextets k c.val.toNat := by
  have range := toNat_lt c
  simp only [String.utf8EncodeChar]
  generalize c.val.toNat = v at range ⊢
  by_cases alone : v ≤ 0x7f
  · exact ⟨_, _, .alone alone, by rw [if_pos alone, sextets]⟩
  · rw [if_neg alone]
    by_cases one : v ≤ 0x7ff
    · refine ⟨_, _, .one (Nat.not_le.mp alone) one, ?_⟩
      rw [if_pos one, Nat.mod_eq_of_lt (by omega : v / 64 < 0x20)]
      simp only [sextets, pow_zero, Nat.div_one]
    · rw [if_neg one]
      by_cases two : v ≤ 0xffff
      · refine ⟨_, _, .two (Nat.not_le.mp one) two, ?_⟩
        rw [if_pos two, Nat.mod_eq_of_lt (by omega : v / 4096 < 0x10)]
        simp only [sextets, pow_zero, pow_one, Nat.div_one]
      · refine ⟨_, _, .three (Nat.not_le.mp two) range, ?_⟩
        rw [if_neg two, Nat.mod_eq_of_lt (by omega : v / 262144 < 0x08)]
        simp only [sextets, pow_zero, pow_one, Nat.reducePow, Nat.div_one]

variable {a b j k lead other : Nat}

theorem Leads.lt_size (leads : Leads a k lead) : lead < 256 := by
  cases leads <;> omega

/-- The first byte tells how many follow, and with these as many it holds the rest of the number. -/
theorem Leads.lt_or_same (first : Leads a j lead) (second : Leads b k other) (below : a < b) :
    lead < other ∨ lead = other ∧ j = k ∧ a / 64 ^ j = b / 64 ^ j := by
  cases first <;> cases second <;> omega

theorem sextets_append_lt (below : a < b) (xs ys : List UInt8) (k : Nat)
    (same : a / 64 ^ k = b / 64 ^ k) : sextets k a ++ xs < sextets k b ++ ys := by
  induction k with
  | zero =>
    rw [pow_zero, Nat.div_one, Nat.div_one] at same
    exact absurd same (Nat.ne_of_lt below)
  | succ k ih =>
    rw [pow_succ, ← Nat.div_div_eq_div_mul, ← Nat.div_div_eq_div_mul] at same
    have ordered : a / 64 ^ k ≤ b / 64 ^ k := Nat.div_le_div_right (Nat.le_of_lt below)
    rw [sextets, sextets, List.cons_append, List.cons_append, List.cons_lt_cons_iff]
    rcases Nat.lt_or_eq_of_le ordered with less | equal
    · left
      rw [UInt8.lt_iff_toNat_lt, UInt8.toNat_ofNat', UInt8.toNat_ofNat']
      omega
    · exact .inr ⟨by rw [equal], ih equal⟩

/-- Characters are told apart by their bytes, whatever comes behind them. -/
theorem utf8EncodeChar_append_lt {c d : Char} (below : c < d) (xs ys : List UInt8) :
    String.utf8EncodeChar c ++ xs < String.utf8EncodeChar d ++ ys := by
  have smaller : c.val.toNat < d.val.toNat := below
  obtain ⟨j, lead, first, encoded⟩ := exists_leads c
  obtain ⟨k, other, second, encoded'⟩ := exists_leads d
  rw [encoded, encoded', List.cons_append, List.cons_append, List.cons_lt_cons_iff]
  rcases first.lt_or_same second smaller with less | ⟨rfl, rfl, same⟩
  · left
    rwa [UInt8.lt_iff_toNat_lt, UInt8.toNat_ofNat_of_lt' first.lt_size, UInt8.toNat_ofNat_of_lt' second.lt_size]
  · exact .inr ⟨rfl, sextets_append_lt smaller xs ys j same⟩

theorem bytes_eq (s : String) : bytes s = s.toList.flatMap String.utf8EncodeChar := by
  rw [bytes, String.toUTF8_eq_toByteArray, ← String.utf8Encode_toList, List.utf8Encode,
    List.toList_data_toByteArray]

theorem encoded_lt {xs ys : List Char} (below : xs < ys) :
    xs.flatMap String.utf8EncodeChar < ys.flatMap String.utf8EncodeChar := by
  induction below with
  | @nil c cs =>
    obtain ⟨k, lead, -, encoded⟩ := exists_leads c
    rw [List.flatMap_cons, encoded]
    exact List.nil_lt_cons _ _
  | rel less => exact utf8EncodeChar_append_lt less _ _
  | cons _ ih => exact List.append_left_lt ih

theorem bytes_lt_of_lt {s t : String} (below : s < t) : bytes s < bytes t := by
  rw [bytes_eq, bytes_eq]
  exact encoded_lt below

end BeamRun.Text
