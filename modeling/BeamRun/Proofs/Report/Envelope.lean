import BeamRun.Proofs.Json.Record
import BeamRun.Proofs.Report.Identifier
import BeamRun.Proofs.Report.Timestamp
import BeamRun.Report

/-! What a context becomes when its text is read. The field of additional entries is left out where there
are none, and a reader insists on it. -/

namespace BeamRun.Report.Context

open Json Json.Reader

def draft (c : Context) : Draft :=
  ⟨c.requestId.map some, c.submittedBy.map some, if c.additional.isEmpty then none else some c.additional⟩

theorem finish_draft (c : Context) :
    c.draft.finish =
      if c.additional.isEmpty then .error (.missingField "additional") else .ok c := by
  rcases c with ⟨requestId, submittedBy, additional⟩
  rw [draft, Draft.finish]
  by_cases empty : additional.isEmpty = true
  · simp [empty]
  · cases requestId <;> cases submittedBy <;> simp [empty]

theorem filled_text (key : String) {isFilled : Draft → Bool} {put : Option String → Draft → Draft}
    (known : slots.find? (·.name == key) =
      some ⟨key, isFilled, optional plainString >>= fun s => pure (put s)⟩)
    {d : Draft} (vacant : isFilled d = false) (text : Option String) :
    Filled slots d (text.toList.map fun s => (key, Json.string s))
      (text.elim d fun s => put (some s) d) := by
  cases text with
  | none => exact .nil d
  | some s =>
    have read (rest : List Char) (_ : Ended rest) :
        Reads (optional plainString >>= fun s => pure (put s)) (stringChars s ++ rest) (put (some s)) rest :=
      (reads_optional_string s).bind (reads_pure _ rest)
    exact .cons known vacant read (.nil _)

theorem filled_additional (d : Draft) (vacant : d.additional.isSome = false) (m : TextMap String) :
    Filled slots d
      (if m.isEmpty then [] else [("additional", .object (m.entries.map fun e => (e.1, Json.string e.2)))])
      { d with additional := if m.isEmpty then d.additional else some m } := by
  by_cases empty : m.isEmpty = true
  · simp only [empty, if_true]
    exact .nil d
  · simp only [empty]
    exact .cons rfl vacant (fun rest _ => (reads_mapOf m).bind (reads_pure _ rest)) (.nil _)

theorem exists_filled (c : Context) :
    ∃ es, c.toJson = .object es ∧ Filled slots .blank es c.draft := by
  have first : Filled slots .blank (c.requestId.toList.map fun s => ("requestId", Json.string s))
      ⟨c.requestId.map some, none, none⟩ := by
    have filled := filled_text "requestId" rfl (d := .blank) rfl
    cases c.requestId <;> exact filled _
  have second : Filled slots ⟨c.requestId.map some, none, none⟩
      (c.submittedBy.toList.map fun s => ("submittedBy", Json.string s))
      ⟨c.requestId.map some, c.submittedBy.map some, none⟩ := by
    have filled := filled_text "submittedBy" rfl (d := ⟨c.requestId.map some, none, none⟩) rfl
    cases c.submittedBy <;> exact filled _
  have third := filled_additional ⟨c.requestId.map some, c.submittedBy.map some, none⟩ rfl c.additional
  exact ⟨_, rfl, (first.append second).append third⟩

/-- Whatever stands behind it, the text of a context is read as the context if it has additional entries,
and is refused for the lack of the field if it has none. -/
theorem comesTo_reader (c : Context) (rest : List Char) :
    ComesTo reader (c.toJson.chars ++ rest)
      (if c.additional.isEmpty then .error (.missingField "additional") else .ok (c, rest)) := by
  obtain ⟨es, text, filled⟩ := c.exists_filled
  have read : ComesTo reader ((Json.object es).chars ++ rest)
      (c.draft.finish.map fun context => (context, rest)) := filled.comesTo_record rest
  rw [finish_draft] at read
  rw [text]
  cases empty : c.additional.isEmpty with
  | true => simpa [empty, Except.map] using read
  | false => simpa [empty, Except.map] using read

theorem parse_toJson {c : Context} (nonempty : c.additional.isEmpty = false) :
    parse c.toJson.text = .ok c := by
  have read := c.comesTo_reader []
  rw [nonempty, if_neg Bool.false_ne_true, List.append_nil] at read
  exact run_text_of_reads read

theorem parse_toJson_error {c : Context} (empty : c.additional.isEmpty = true) :
    ∃ e, parse c.toJson.text = .error e ∧ e.fault = .missingField "additional" := by
  have read := c.comesTo_reader []
  rw [empty, if_pos rfl, List.append_nil] at read
  exact run_text_of_comesTo_error read

end BeamRun.Report.Context

/-! Reports and their contexts on the way through JSON. Everything that is written is read back, but for
contexts without additional entries: what they leave out is missed. -/

namespace BeamRun.Report

open Json Json.Reader

variable {α β : Type} {item : Json.Reader β} {encode : α → Json} {meaning : α → β} {rest : List Char}

theorem reads_formed {ε : Type} {expected s : String} {parse : String → Except ε β} {message : ε → String}
    {b : β} (known : parse s = .ok b) :
    Reads (formed expected parse message) (stringChars s ++ rest) b rest := by
  refine (reads_stringAs expected s).bind ?_
  rw [known]
  exact reads_pure b rest

theorem filled_stamp (item : Json.Reader β) (stamp : Stamp) (valid : stamp.time.Valid) :
    Filled (slots item) .blank
      [("reportId", .string stamp.id.text), ("timestamp", .string stamp.time.text)]
      ⟨some stamp.id, some stamp.time, none, none⟩ := by
  refine .cons rfl rfl (fun rest _ => (reads_formed stamp.id.parse_text).bind (reads_pure _ rest)) ?_
  refine .cons rfl rfl (fun rest _ => (reads_formed ?_).bind (reads_pure _ rest)) (.nil _)
  exact Timestamp.parse_text valid

/-- The fields of a report are read in order; a context without additional entries ends the reading. -/
theorem comesTo_reader (r : Report α) (valid : r.stamp.time.Valid)
    (each : ∀ a ∈ r.errors, ∀ rest, Ended rest → Reads item ((encode a).chars ++ rest) (meaning a) rest)
    (rest : List Char) :
    ComesTo (reader item) ((r.toJson encode).chars ++ rest)
      (if r.context.additional.isEmpty then .error (.missingField "additional")
       else .ok (⟨r.stamp, r.context, r.errors.map meaning⟩, rest)) := by
  have stamp := filled_stamp item r.stamp valid
  have context := r.context.comesTo_reader
  cases empty : r.context.additional.isEmpty with
  | true =>
    simp only [empty, if_true] at context ⊢
    exact stamp.comesTo_record_error rfl rfl (fun rest _ => (context rest).bind_error _) _ rest
  | false =>
    simp only [empty, Bool.false_eq_true, if_false] at context ⊢
    have others : Filled (slots item) ⟨some r.stamp.id, some r.stamp.time, none, none⟩
        [("context", r.context.toJson), ("errors", .array (r.errors.map encode))]
        ⟨some r.stamp.id, some r.stamp.time, some r.context, some (r.errors.map meaning)⟩ :=
      .cons rfl rfl (fun rest _ => Reads.bind (context rest) (reads_pure _ rest))
        (.cons rfl rfl (fun rest _ => (reads_listOf each).bind (reads_pure _ rest)) (.nil _))
    exact (stamp.append others).comesTo_record rest

/-- A context is read back from its text if it has additional entries, and a report with such a context if
its errors can be read; without additional entries the one and the other are refused for the lack of the
field. -/
theorem read_back_iff_additional (c : Context) :
    (c.additional.isEmpty = false → Context.parse c.toJson.text = .ok c) ∧
    (c.additional.isEmpty = true →
      ∃ e, Context.parse c.toJson.text = .error e ∧ e.fault = .missingField "additional") ∧
    ∀ {α β : Type} (encode : α → Json) (item : Json.Reader β) (meaning : α → β) (stamp : Stamp)
      (errors : List α), stamp.time.Valid →
      (∀ a ∈ errors, ∀ rest, Ended rest → Reads item ((encode a).chars ++ rest) (meaning a) rest) →
      (c.additional.isEmpty = false →
        (reader item).run (toJson encode ⟨stamp, c, errors⟩).text = .ok ⟨stamp, c, errors.map meaning⟩) ∧
      (c.additional.isEmpty = true →
        ∃ e, (reader item).run (toJson encode ⟨stamp, c, errors⟩).text = .error e ∧
          e.fault = .missingField "additional") := by
  refine ⟨Context.parse_toJson, Context.parse_toJson_error, ?_⟩
  intro α β encode item meaning stamp errors valid each
  have read := comesTo_reader ⟨stamp, c, errors⟩ valid each []
  rw [List.append_nil] at read
  constructor
  · intro nonempty
    rw [nonempty, if_neg Bool.false_ne_true] at read
    exact run_text_of_reads read
  · intro empty
    rw [empty, if_pos rfl] at read
    exact run_text_of_comesTo_error read

/-- A request that is known by its name, and the same with a source. -/
def named : Context := ⟨some "r1", none, .empty⟩

def sourced : Context := named.add "source" "cli"

/-- In the leap second at the end of the year 2016. -/
def leapSecond : Stamp := ⟨⟨0⟩, ⟨1483228799, 1500000000⟩⟩

def leapReport (c : Context) : Report String := ⟨leapSecond, c, ["a", "b"]⟩

theorem read_back_iff_additional_source :
    (∃ e, Context.parse named.toJson.text = .error e ∧ e.fault = .missingField "additional") ∧
    Context.parse sourced.toJson.text = .ok sourced ∧
    (∃ e, (reader plainString).run ((leapReport named).toJson .string).text = .error e ∧
      e.fault = .missingField "additional") ∧
    (reader plainString).run ((leapReport sourced).toJson .string).text = .ok (leapReport sourced) := by
  have valid : leapSecond.time.Valid := ⟨by decide, by decide, fun _ => rfl⟩
  have each : ∀ a ∈ ["a", "b"], ∀ rest, Ended rest →
      Reads plainString ((Json.string a).chars ++ rest) (id a) rest :=
    fun a _ rest _ => reads_stringAs _ a
  obtain ⟨-, refused, unsourced⟩ := read_back_iff_additional named
  obtain ⟨accepted, -, reports⟩ := read_back_iff_additional sourced
  exact ⟨refused rfl, accepted rfl, (unsourced _ _ _ leapSecond _ valid each).2 rfl,
    (reports _ _ _ leapSecond _ valid each).1 rfl⟩

/-- The context with nothing in it is written as an object with nothing in it, which is refused. -/
theorem empty_context_refused :
    Context.empty.toJson.text = "\x7b\x7d" ∧
      Context.parse "\x7b\x7d" = .error ⟨.missingField "additional", 1, 2⟩ :=
  ⟨by decide +kernel, rfl⟩

end BeamRun.Report
