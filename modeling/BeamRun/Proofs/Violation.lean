import BeamRun.Proofs.Catalogue
import BeamRun.Proofs.Report.Identifier
import BeamRun.Violation

/-! The words of a violation stay on one line. Numbers are written without line breaks and literals with
escapes; what is left is the name of a key that spells no field, which stands as it came. -/

namespace BeamRun

namespace Decimal

theorem newline_not_mem_positionalText {l : Layout} (suffix : '\n' ∉ l.wholeSuffix) (d : Decimal) :
    '\n' ∉ l.positionalText d := by
  simp only [Layout.positionalText]
  split
  · have zeros := (allDigits_zeros d.exponent.toNat).newline_not_mem
    simp [newline_not_mem_digits, zeros, suffix]
  · have all := (allDigits_digits d.coefficient).leftpad ((-d.exponent).toNat + 1)
    simp only [List.mem_append, List.mem_cons, not_or]
    exact ⟨(all.take _).newline_not_mem, by decide, (all.drop _).newline_not_mem⟩

theorem newline_not_mem_scientificText (d : Decimal) : '\n' ∉ scientificText d := by
  have first := ((allDigits_digits d.coefficient).take 1).newline_not_mem
  have others := ((allDigits_digits d.coefficient).drop 1).newline_not_mem
  simp only [scientificText]
  generalize d.exponent + (digits d.coefficient).length - 1 = exponent
  have tail : '\n' ∉ if (digits d.coefficient).length = 1 then []
      else '.' :: (digits d.coefficient).drop 1 := by
    split
    · exact List.not_mem_nil
    · exact List.not_mem_cons_of_ne_of_not_mem (by decide) others
  have sign : '\n' ∉ if exponent < 0 then [] else ['+'] := by
    split <;> decide
  simp only [List.mem_append, List.mem_cons, not_or]
  exact ⟨⟨⟨first, tail⟩, by decide, sign⟩, newline_not_mem_ofInt _⟩

theorem newline_not_mem_text {l : Layout} (suffix : '\n' ∉ l.wholeSuffix) (x : Binary64) :
    '\n' ∉ l.text x := by
  have sign : '\n' ∉ signText x := by
    rw [signText]
    split <;> decide
  have decimal (d : Decimal) : '\n' ∉ l.decimalText d := by
    rw [Layout.decimalText]
    split
    · exact newline_not_mem_positionalText suffix d
    · exact newline_not_mem_scientificText d
  rw [Layout.text]
  repeat' split
  · decide
  · simp [sign]
  · simp [sign, suffix]
  · simp [sign, decimal]

theorem newline_not_mem_plainText (x : Binary64) : '\n' ∉ (plainText x).toList := by
  rw [plainText, String.toList_ofList]
  exact newline_not_mem_text (by decide) x

end Decimal

theorem Number.newline_not_mem_text (n : Number) : '\n' ∉ n.text.toList := by
  rw [Number.text, String.toList_ofList]
  cases n with
  | whole n => exact Decimal.newline_not_mem_ofInt n.val
  | real x => exact Decimal.newline_not_mem_text (by decide) x.val

namespace Text

theorem newline_not_mem_quotedChar (c : Char) : '\n' ∉ quotedChar c := by
  have hexadecimal : '\n' ∉ Decimal.hexDigits c.toNat := fun member =>
    absurd ((Decimal.hexDigits_spec c.toNat).1 _ member) (by decide)
  rw [quotedChar]
  repeat' split
  any_goals decide
  · simp [hexadecimal]
  · next other _ _ _ _ => exact fun member => other (List.mem_singleton.mp member).symm

theorem newline_not_mem_quoted (s : String) : '\n' ∉ (quoted s).toList := by
  simp [quoted, newline_not_mem_quotedChar]

end Text

namespace Field

private theorem newline_not_mem_spellings : ∀ f ∈ all, ∀ key ∈ f.spellings, '\n' ∉ key.toList := by
  decide +kernel

theorem newline_not_mem_of_spelling {f : Field} {key : String} (spelling : key ∈ f.spellings) :
    '\n' ∉ key.toList :=
  newline_not_mem_spellings f f.mem_all key spelling

theorem newline_not_mem_name (f : Field) : '\n' ∉ f.name.toList :=
  newline_not_mem_of_spelling f.name_mem_spellings

end Field

theorem Misfit.newline_not_mem_message (d : Domain) (cause : Misfit) :
    '\n' ∉ (cause.message d).toList := by
  have described : '\n' ∉ d.describe.toList := by cases d <;> decide
  have listed : '\n' ∉ [',', ' '].intercalate ((d.literals.getD []).map String.toList) := by
    cases d <;> decide
  unfold message
  cases cause with
  | mistyped found =>
    have named : '\n' ∉ found.name.toList := by cases found <;> decide
    simp only [String.toList_append, List.mem_append, not_or]
    exact ⟨⟨⟨by decide, described⟩, by decide⟩, named⟩
  | fractional x => simp [Number.newline_not_mem_text]
  | negative x => simp [Decimal.newline_not_mem_plainText]
  | belowOne n => simp [Decimal.newline_not_mem_ofInt]
  | unlisted literal => simp [listed, Text.newline_not_mem_quoted]

namespace Defect

theorem newline_not_mem_message (d : Defect) : '\n' ∉ d.violation.message.toList := by
  have counted (n : UInt64) : '\n' ∉ (countText n).toList := by
    simp [countText, Decimal.newline_not_mem_digits]
  cases d with
  | misfit f cause => exact cause.newline_not_mem_message f.domain
  | unknown key =>
    have fixed : '\n' ∉ "is not a recognized simulation option".toList := by decide
    exact fixed
  | lossesReversed minimum mean => simp [violation, Decimal.newline_not_mem_plainText]
  | countsReversed recorded generated => simp [violation, counted]

theorem newline_not_mem_related (d : Defect) :
    ∀ field ∈ d.violation.related, '\n' ∉ field.toList := by
  cases d <;> simp [violation, Field.newline_not_mem_name]

/-- A line break in the name of what is at fault comes from a key of the payload. -/
theorem newline_mem_field_iff (d : Defect) :
    '\n' ∈ d.violation.field.toList ↔ ∃ key, d = .unknown key ∧ '\n' ∈ key.toList := by
  cases d <;> simp [violation, Field.newline_not_mem_name]

end Defect
end BeamRun
