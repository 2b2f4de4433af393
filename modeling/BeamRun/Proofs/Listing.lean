import BeamRun.Listing
import BeamRun.Loading
import BeamRun.Proofs.Payload
import BeamRun.Proofs.Text
import BeamRun.Proofs.Validation.Diagnosis
import BeamRun.Proofs.Violation

/-! A rejection as people read it: a title, and a line for each violation unless the name of a key
breaks it. -/

namespace BeamRun

def Violation.line (v : Violation) : String :=
  let related := (v.related.map fun field => " (see " ++ field ++ ")").getD ""
  "  " ++ v.field ++ " [" ++ v.kind.code ++ "] " ++ v.message ++ related

/-- All that can break the line of a violation is the name that it begins with. -/
theorem Defect.count_newline_line (d : Defect) :
    d.violation.line.toList.count '\n' = d.violation.field.toList.count '\n' := by
  have code : '\n' ∉ d.violation.kind.code.toList := by
    cases d.violation.kind <;> decide
  have related : '\n' ∉
      ((d.violation.related.map fun field => " (see " ++ field ++ ")").getD "").toList := by
    cases other : d.violation.related with
    | none => simp
    | some field => simp [d.newline_not_mem_related field other]
  simp [Violation.line, List.count_append, List.count_eq_zero_of_not_mem, code, related,
    d.newline_not_mem_message]

theorem Defect.count_newline_lines (ds : List Defect) :
    ((ds.map violation).flatMap fun v => v.line.toList).count '\n' =
      ((ds.map violation).flatMap fun v => v.field.toList).count '\n' := by
  induction ds with
  | nil => rfl
  | cons d ds ih =>
    simp only [List.map_cons, List.flatMap_cons, List.count_append, d.count_newline_line, ih]

theorem Defect.newline_mem_line_iff (d : Defect) :
    '\n' ∈ d.violation.line.toList ↔ ∃ key, d = .unknown key ∧ '\n' ∈ key.toList := by
  rw [← d.newline_mem_field_iff, ← List.count_pos_iff, d.count_newline_line, List.count_pos_iff]

theorem Text.behindMarks_of_not_mem {m : Char} {mark extra cs : List Char} (none : m ∉ cs) :
    behindMarks (m :: mark) extra 0 cs = cs := by
  induction cs with
  | nil => rfl
  | cons c cs ih =>
    have other : (m == c) = false := beq_false_of_ne fun same => none (same ▸ List.mem_cons_self)
    have later := ih fun member => none (List.mem_cons_of_mem c member)
    simp [behindMarks, List.isPrefixOf, other, later]

namespace Listing

def Style.code : Style → String
  | good => "1;32"
  | bad => "1;31"
  | name => "33"

/-- A text between the codes that start a colour and end it. -/
def framed (colored : Bool) (code text : String) : String :=
  if colored then "\x1b[" ++ code ++ "m" ++ text ++ "\x1b[0m" else text

theorem painted_eq_framed (colored : Bool) (style : Style) (text : String)
    (plain : colored = true → '\x1b' ∉ text.toList) :
    painted colored style text = framed colored style.code text := by
  cases colored with
  | false => rfl
  | true =>
    have mark : reset.toList = '\x1b' :: ['[', '0', 'm'] := by decide
    have start : style.start = "\x1b[" ++ style.code ++ "m" := by cases style <;> decide
    rw [painted, framed, if_pos rfl, if_pos rfl, mark, Text.behindMarks_of_not_mem (plain rfl), start]
    dsimp only
    rw [String.ofList_toList]
    rfl

def optionLine (o : Options) (f : Field) : String :=
  "  " ++ String.ofList (f.name.toList.rightpad 34 ' ') ++ " " ++ (o.valueOf f).text

theorem newline_not_mem_encode (d : Domain) (x : d.Value) : '\n' ∉ (d.encode x).text.toList := by
  have number (n : Number) : '\n' ∉ (Json.number n).text.toList := by
    rw [Json.text, Json.chars]
    exact n.newline_not_mem_text
  have real (x : Binary64) : '\n' ∉ (Json.ofBinary64 x).text.toList := by
    unfold Json.ofBinary64
    split
    · exact number _
    · decide
  cases d with
  | flag =>
    cases (x : Bool) with
    | false => decide
    | true => decide
  | amount => exact real x
  | number => exact real x
  | count => exact number _
  | scattering => cases (x : Scattering) <;> decide
  | straggling => cases (x : Straggling) <;> decide

theorem newline_not_mem_optionLine (o : Options) (f : Field) : '\n' ∉ (optionLine o f).toList := by
  simp [optionLine, f.newline_not_mem_name, Options.valueOf, newline_not_mem_encode, List.rightpad]

theorem toList_options (colored : Bool) (o : Options) :
    (options colored o).toList =
      (framed colored "1;32" "Simulation options accepted").toList ++
        '\n' :: Field.all.flatMap fun f => (optionLine o f).toList ++ ['\n'] := by
  have headline := painted_eq_framed colored .good "Simulation options accepted" fun _ => by decide
  have newline : "\n".toList = ['\n'] := by decide
  have line (f : Field) : option o f = optionLine o f ++ "\n" := rfl
  simp only [options, acceptedHeadline, headline, line, String.toList_append, String.toList_join,
    List.flatMap_map, newline, List.append_assoc, List.singleton_append]
  rfl

theorem pieces_options (colored : Bool) (o : Options) :
    Text.pieces '\n' (options colored o) =
      framed colored "1;32" "Simulation options accepted" :: Field.all.map (optionLine o) ++ [""] := by
  have headline : '\n' ∉ (framed colored "1;32" "Simulation options accepted").toList := by
    cases colored <;> decide
  rw [Text.pieces, toList_options, Text.split_append_cons headline,
    Text.split_flatMap _ fun f _ => newline_not_mem_optionLine o f]
  simp

def title (r : Report Violation) : String :=
  "Simulation options rejected (" ++ toString r.errors.length ++
    (if r.errors.length = 1 then " error" else " errors") ++ ", report " ++ r.stamp.id.text ++ ")"

/-- The title and each violation stand on a line of their own, in the order of the report, and nothing
comes after the last line. -/
def ByLine (r : Report Violation) : Prop :=
  Text.pieces '\n' (rejection false r) = title r :: r.errors.map Violation.line ++ [""]

instance (r : Report Violation) : Decidable (ByLine r) := inferInstanceAs (Decidable (_ = _))

/-- The text of a rejection with the codes of the colours written out. -/
def rejectionText (colored : Bool) (r : Report Violation) : String :=
  framed colored "1;31" "Simulation options rejected" ++ " (" ++ toString r.errors.length ++
    (if r.errors.length = 1 then " error" else " errors") ++ ", report " ++ r.stamp.id.text ++ ")\n" ++
    String.join (r.errors.map fun v =>
      "  " ++ framed colored "33" v.field ++ " [" ++ v.kind.code ++ "] " ++ v.message ++
        (v.related.map fun field => " (see " ++ field ++ ")").getD "" ++ "\n")

theorem rejection_eq_rejectionText {colored : Bool} {r : Report Violation}
    (plain : colored = true → ∀ v ∈ r.errors, '\x1b' ∉ v.field.toList) :
    rejection colored r = rejectionText colored r := by
  have title := painted_eq_framed colored .bad "Simulation options rejected" fun _ => by decide
  have lines : r.errors.map (violation colored) = r.errors.map fun v =>
      "  " ++ framed colored "33" v.field ++ " [" ++ v.kind.code ++ "] " ++ v.message ++
        (v.related.map fun field => " (see " ++ field ++ ")").getD "" ++ "\n" := by
    refine List.map_congr_left fun v listed => ?_
    rw [violation, painted_eq_framed colored .name v.field fun painting => plain painting v listed]
    rfl
  rw [rejection, headline, title, lines]
  rfl

theorem newline_not_mem_title (r : Report Violation) : '\n' ∉ (title r).toList := by
  have number : '\n' ∉ (toString r.errors.length).toList := by
    rw [Nat.toString_eq_repr, Nat.toList_repr]
    exact Decimal.newline_not_mem_digits _
  have plural : '\n' ∉ (if r.errors.length = 1 then " error" else " errors").toList := by
    split <;> decide
  have identifier : '\n' ∉ r.stamp.id.text.toList := by
    intro member
    rw [Report.Identifier.text, String.toList_ofList] at member
    rcases Report.Identifier.mem_hyphenated member with digit | hyphen
    · exact absurd (r.stamp.id.plainDigits_lowerHex _ digit) (by decide)
    · exact absurd hyphen (by decide)
  unfold title
  simp only [String.toList_append, List.mem_append, not_or]
  exact ⟨⟨⟨⟨⟨by decide, number⟩, plural⟩, by decide⟩, identifier⟩, by decide⟩

theorem headline_plain (r : Report Violation) : headline false r = title r ++ "\n" := by
  have front : "Simulation options rejected (" = "Simulation options rejected" ++ " (" := by decide
  have back : ")\n" = ")" ++ "\n" := by decide
  unfold headline title painted
  rw [front, back, if_neg Bool.false_ne_true]
  simp only [String.append_assoc]

theorem violation_plain (v : Violation) : violation false v = v.line ++ "\n" := rfl

theorem toList_rejection (r : Report Violation) :
    (rejection false r).toList =
      (title r).toList ++ '\n' :: r.errors.flatMap fun v => v.line.toList ++ ['\n'] := by
  have newline : "\n".toList = ['\n'] := by decide
  simp only [rejection, headline_plain, String.toList_append, String.toList_join, List.flatMap_map,
    violation_plain, newline, List.append_assoc, List.singleton_append]

theorem count_newline_rejection (r : Report Violation) :
    (rejection false r).toList.count '\n' =
      1 + r.errors.length + (r.errors.flatMap fun v => v.line.toList).count '\n' := by
  have listed (vs : Violations) :
      (vs.flatMap fun v => v.line.toList ++ ['\n']).count '\n' =
        vs.length + (vs.flatMap fun v => v.line.toList).count '\n' := by
    induction vs with
    | nil => rfl
    | cons v vs ih =>
      simp only [List.flatMap_cons, List.count_append, List.length_cons, List.count_singleton_self, ih]
      omega
  rw [toList_rejection, List.count_append, List.count_cons_self, listed,
    List.count_eq_zero_of_not_mem (newline_not_mem_title r)]
  omega

theorem byLine_iff (r : Report Violation) : ByLine r ↔ ∀ v ∈ r.errors, '\n' ∉ v.line.toList := by
  constructor
  · intro byLine v listed
    have pieces := congrArg List.length byLine
    have counted := count_newline_rejection r
    rw [Text.pieces, List.length_map, Text.length_split] at pieces
    -- As many line ends as lines leave none for the inside of a line.
    have none : (r.errors.flatMap fun v => v.line.toList).count '\n' = 0 := by
      simp only [List.length_append, List.length_cons, List.length_map, List.length_nil] at pieces
      omega
    exact fun member => List.count_eq_zero.mp none (List.mem_flatMap.mpr ⟨v, listed, member⟩)
  · intro single
    rw [ByLine, Text.pieces, toList_rejection, Text.split_append_cons (newline_not_mem_title r),
      Text.split_flatMap _ single]
    simp

end Listing

namespace Settings

variable {s : Settings} {p : Payload} {defaults : Options} {context : Report.Context}
  {stamp : Report.Stamp} {r : Report Violation}

theorem check_rejected_iff :
    (s.check p defaults context stamp).run.result = .ok (.rejected r) ↔
      r.stamp = stamp ∧ r.context = context ∧ s.judge p defaults = .error (.rejected r.errors) := by
  rcases r with ⟨_, _, _⟩
  rw [check, Checked.ofVerdict, judge]
  split
  · next accepted => simp [accepted]
  · next rejected => simp [rejected, eq_comm]
  · next differs failed => simpa [failed] using fun _ _ => differs _

/-- A line of a rejection is broken just where a key holds a line break and unknown keys are told of:
no spelling of a field holds one. -/
theorem newline_mem_line_iff {vs : Violations} (rejected : s.judge p defaults = .error (.rejected vs)) :
    (∃ v ∈ vs, '\n' ∈ v.line.toList) ↔
      s.unknownKeys = .reject ∧ ∃ key ∈ p.keys, '\n' ∈ key.toList := by
  obtain ⟨-, -, rfl⟩ := (judge_eq_rejected_iff s p defaults vs).mp rejected
  constructor
  · intro broken
    rcases broken with ⟨v, listed, newline⟩
    obtain ⟨d, found, rfl⟩ := List.mem_map.mp listed
    obtain ⟨key, rfl, inKey⟩ := d.newline_mem_line_iff.mp newline
    obtain ⟨policy, unknown⟩ := unknown_mem_defects_iff.mp found
    exact ⟨policy, key, ((Payload.mem_unknownKeys_iff p key).mp unknown).1, inKey⟩
  · intro broken
    rcases broken with ⟨policy, key, present, newline⟩
    have unspelled (f : Field) : key ∉ f.spellings := fun spelling =>
      Field.newline_not_mem_of_spelling spelling newline
    have unknown := (Payload.mem_unknownKeys_iff p key).mpr ⟨present, unspelled⟩
    exact ⟨_, List.mem_map_of_mem (unknown_mem_defects_iff.mpr ⟨policy, unknown⟩),
      (Defect.unknown key).newline_mem_line_iff.mpr ⟨key, rfl, newline⟩⟩

/-- A rejection has a line for its title, one for each error, and one more for each line break in the
names of the errors. It is listed line by line unless unknown keys are rejected and a key holds a line
break. -/
theorem rejection_by_line
    (rejected : (s.check p defaults context stamp).run.result = .ok (.rejected r)) :
    (Listing.rejection false r).toList.count '\n' =
        1 + r.errors.length + (r.errors.flatMap fun v => v.field.toList).count '\n' ∧
      (Listing.ByLine r ↔ (s.unknownKeys = .reject → ∀ key ∈ p.keys, '\n' ∉ key.toList)) := by
  obtain ⟨-, -, verdict⟩ := check_rejected_iff.mp rejected
  constructor
  · obtain ⟨-, -, errors⟩ := (judge_eq_rejected_iff s p defaults _).mp verdict
    rw [Listing.count_newline_rejection, errors, Defect.count_newline_lines]
  · rw [Listing.byLine_iff]
    simpa using not_congr (newline_mem_line_iff verdict)

def threeFaultsReport : Report Violation := ⟨⟨⟨0⟩, ⟨0, 0⟩⟩, .empty, threeViolations⟩

theorem rejection_by_line_threeFaults :
    (strict.check threeFaults .builtin .empty ⟨⟨0⟩, ⟨0, 0⟩⟩).run.result =
        .ok (.rejected threeFaultsReport) ∧
      (Listing.rejection false threeFaultsReport).toList.count '\n' = 4 ∧
      Listing.ByLine threeFaultsReport := by
  have rejected : (strict.check threeFaults .builtin .empty ⟨⟨0⟩, ⟨0, 0⟩⟩).run.result =
      .ok (.rejected threeFaultsReport) := by rfl
  obtain ⟨lines, byLine⟩ := rejection_by_line rejected
  exact ⟨rejected, lines.trans (by decide +kernel), byLine.mpr fun _ => by decide +kernel⟩

/-- What is told of a key that holds a line break and spells no field. -/
def brokenKeyReport : Report Violation :=
  ⟨⟨⟨0⟩, ⟨0, 0⟩⟩, .empty,
    [⟨"a\nb", .unknownField, "is not a recognized simulation option", none⟩]⟩

/-- One error that is told of on two lines, neither of which names it. -/
theorem error_on_two_lines :
    ∃ p, Payload.parse "\x7b\"a\\nb\":1\x7d" = .ok p ∧ strict.audit .builtin = [] ∧
      (strict.check p .builtin .empty ⟨⟨0⟩, ⟨0, 0⟩⟩).run.result = .ok (.rejected brokenKeyReport) ∧
      Text.pieces '\n' (Listing.rejection false brokenKeyReport) =
        ["Simulation options rejected (1 error, report 00000000-0000-0000-0000-000000000000)",
          "  a", "b [VALIDATION_1004] is not a recognized simulation option", ""] ∧
      ¬ Listing.ByLine brokenKeyReport := by
  obtain ⟨p, parsed, verdict⟩ :
      ∃ p, Payload.parse "\x7b\"a\\nb\":1\x7d" = .ok p ∧
        strict.judge p .builtin = .error (.rejected brokenKeyReport.errors) :=
    Payload.exists_of_map_parse (by decide +kernel)
  have clean := ((judge_eq_rejected_iff strict p .builtin _).mp verdict).1
  exact ⟨p, parsed, clean, check_rejected_iff.mpr ⟨rfl, rfl, verdict⟩, by decide +kernel,
    by decide +kernel⟩

end Settings
end BeamRun
