import BeamRun.Json.Reader
import BeamRun.Json.Value
import BeamRun.Proofs.Json.Cursor

namespace BeamRun.Json.Reader

variable {rest : List Char}

/-- A character that stands for itself between quotes. -/
def Plain (c : Char) : Prop := c ≠ '"' ∧ c ≠ '\\' ∧ ¬ c.toNat < 0x20

theorem escapeChar_of_plain {c : Char} (plain : Plain c) : escapeChar c = [c] := by
  rcases plain with ⟨quote, backslash, printable⟩
  have above (n : Nat) (low : n < 0x20) : c.toNat ≠ n := by omega
  have other (d : Char) (low : d.toNat < 0x20) : c ≠ d := fun same => printable (same ▸ low)
  simp only [escapeChar, quote, backslash, other '\n' (by decide), other '\r' (by decide),
    other '\t' (by decide), above 0x08 (by decide), above 0x0c (by decide), printable, if_false]

theorem controlDigits : ∀ n < 0x20,
    let ds := (Decimal.hexDigits n).leftpad 4 '0'
    ds.length = 4 ∧ ds.all Decimal.isHexDigit = true ∧ Decimal.hexValue ds = n := by
  decide +kernel

theorem reads_fourHexDigits {n : Nat} (control : n < 0x20) :
    Reads fourHexDigits ((Decimal.hexDigits n).leftpad 4 '0' ++ rest) n rest := by
  intro offset
  obtain ⟨four, digits, value⟩ := controlDigits n control
  refine ⟨offset + 4, ?_⟩
  simp only [fourHexDigits, List.take_left' four, List.drop_left' four, four, digits, and_self,
    if_true, value]

theorem reads_unicodeEscape {c : Char} (control : c.toNat < 0x20) :
    Reads unicodeEscape ((Decimal.hexDigits c.toNat).leftpad 4 '0' ++ rest) c rest := by
  refine (reads_fourHexDigits control).bind ?_
  rw [if_neg (by omega), if_neg (by omega), Char.ofNat_toNat]
  exact reads_pure c rest

theorem reads_escape_mark {mark c : Char} (known : escapedChar mark = some c) (other : mark ≠ 'u') :
    Reads escape (mark :: rest) c rest := by
  refine (reads_peekChar _).bind ?_
  simp only [List.head?_cons, known]
  exact (reads_advance mark rest).bind (reads_pure c rest)

theorem reads_escape_code {c : Char} (control : c.toNat < 0x20) :
    Reads escape ('u' :: (Decimal.hexDigits c.toNat).leftpad 4 '0' ++ rest) c rest := by
  refine (reads_peekChar _).bind ?_
  exact (reads_advance 'u' _).bind (reads_unicodeEscape control)

/-- A character that does not stand for itself is written as a backslash and an escape. -/
theorem escapeChar_of_not_plain {c : Char} (special : ¬ Plain c) :
    ∃ escaped, escapeChar c = '\\' :: escaped ∧ ∀ rest, Reads escape (escaped ++ rest) c rest := by
  have marked (mark : Char) {d : Char} (here : c = d) (known : escapedChar mark = some d)
      (other : mark ≠ 'u') (written : escapeChar d = ['\\', mark]) :
      ∃ escaped, escapeChar c = '\\' :: escaped ∧ ∀ rest, Reads escape (escaped ++ rest) c rest := by
    subst here
    exact ⟨[mark], written, fun rest => reads_escape_mark known other⟩
  have ofNat {n : Nat} (here : c.toNat = n) : c = Char.ofNat n := by rw [← here, Char.ofNat_toNat]
  by_cases quote : c = '"'
  · exact marked '"' quote rfl (by decide) rfl
  by_cases backslash : c = '\\'
  · exact marked '\\' backslash rfl (by decide) rfl
  by_cases lineFeed : c = '\n'
  · exact marked 'n' lineFeed rfl (by decide) rfl
  by_cases return_ : c = '\r'
  · exact marked 'r' return_ rfl (by decide) rfl
  by_cases tab : c = '\t'
  · exact marked 't' tab rfl (by decide) rfl
  by_cases backspace : c.toNat = 0x08
  · exact marked 'b' (ofNat backspace) rfl (by decide) rfl
  by_cases formFeed : c.toNat = 0x0c
  · exact marked 'f' (ofNat formFeed) rfl (by decide) rfl
  have control : c.toNat < 0x20 :=
    Decidable.byContradiction fun above => special ⟨quote, backslash, above⟩
  refine ⟨'u' :: (Decimal.hexDigits c.toNat).leftpad 4 '0', ?_, fun rest => reads_escape_code control⟩
  simp only [escapeChar, quote, backslash, lineFeed, return_, tab, backspace, formFeed, control,
    if_false, if_true]
  rfl

theorem reads_stringTail (cs rest : List Char) {fuel : Nat} (enough : cs.length < fuel) (read : List Char) :
    Reads (stringTail fuel read) (cs.flatMap escapeChar ++ '"' :: rest)
      (String.ofList (read.reverse ++ cs)) rest := by
  induction cs generalizing fuel read with
  | nil =>
    obtain ⟨fuel, rfl⟩ := Nat.exists_eq_add_one_of_ne_zero (Nat.ne_of_gt enough)
    rw [List.append_nil]
    exact (reads_peekChar _).bind ((reads_advance '"' rest).bind (reads_pure _ _))
  | cons c cs ih =>
    obtain ⟨fuel, rfl⟩ := Nat.exists_eq_add_one_of_ne_zero (Nat.ne_of_gt (Nat.zero_lt_of_lt enough))
    have more := ih (Nat.lt_of_succ_lt_succ enough) (c :: read)
    rw [List.reverse_cons, List.append_assoc] at more
    rw [List.flatMap_cons, List.append_assoc]
    by_cases plain : Plain c
    · rw [escapeChar_of_plain plain]
      refine (reads_peekChar _).bind ?_
      simp only [List.cons_append, List.nil_append, List.head?_cons]
      split
      · next none => cases none
      · next here => exact absurd (Option.some.inj here) plain.1
      · next here => exact absurd (Option.some.inj here) plain.2.1
      · next d _ _ here =>
        cases here
        rw [if_neg plain.2.2]
        exact (reads_advance c _).bind more
    · obtain ⟨escaped, written, reads⟩ := escapeChar_of_not_plain plain
      rw [written]
      refine (reads_peekChar _).bind ?_
      exact (reads_advance '\\' _).bind ((reads _).bind more)

theorem escapeChar_length_pos (c : Char) : 0 < (escapeChar c).length := by
  by_cases plain : Plain c
  · rw [escapeChar_of_plain plain]
    exact Nat.one_pos
  · obtain ⟨escaped, written, -⟩ := escapeChar_of_not_plain plain
    rw [written]
    exact Nat.succ_pos _

theorem length_le_escaped (cs : List Char) : cs.length ≤ (cs.flatMap escapeChar).length := by
  induction cs with
  | nil => exact Nat.le_refl 0
  | cons c cs ih =>
    have some := escapeChar_length_pos c
    rw [List.flatMap_cons, List.length_append, List.length_cons]
    omega

/-- A string is read back from its text behind the opening quote, whatever its characters are. -/
theorem reads_string (s : String) :
    Reads string (s.toList.flatMap escapeChar ++ '"' :: rest) s rest := by
  have long := length_le_escaped s.toList
  refine (reads_remaining _).bind ?_
  have enough : s.toList.length < (s.toList.flatMap escapeChar ++ '"' :: rest).length + 1 := by
    rw [List.length_append]
    omega
  have read := reads_stringTail s.toList rest enough []
  rwa [List.reverse_nil, List.nil_append, String.ofList_toList] at read

end BeamRun.Json.Reader
