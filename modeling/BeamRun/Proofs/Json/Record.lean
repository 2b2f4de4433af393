import BeamRun.Json.Record
import BeamRun.Proofs.Entries
import BeamRun.Proofs.Json.Document

/-! Lists, maps and records: what a reader makes of the text that a value of known shape writes, and with
which fault it ends where an entry is wrong or missing. -/

namespace BeamRun

theorem TextMap.ofList_entries {α : Type} (m : TextMap α) : TextMap.ofList m.entries = m :=
  ext_of_get fun key => by
    rw [get?_ofList, Entries.get?_reverse m.keys_nodup]
    rfl

namespace Json.Reader

variable {α β δ : Type} {text rest : List Char}

section Outcomes

/-- Wherever the text stands in a document, the reader comes to a value and what is left, or to a fault. -/
def ComesTo (r : Reader α) (text : List Char) : Except Fault (α × List Char) → Prop
  | .ok (a, rest) => Reads r text a rest
  | .error fault => ∀ offset, ∃ reached, r ⟨text, offset⟩ = .error ⟨fault, reached⟩

theorem Reads.bind_comesTo {r : Reader α} {f : α → Reader β} {a : α}
    {outcome : Except Fault (β × List Char)} (first : Reads r text a rest)
    (second : ComesTo (f a) rest outcome) : ComesTo (r >>= f) text outcome := by
  cases outcome with
  | ok result => exact first.bind second
  | error fault =>
    intro offset
    obtain ⟨middle, here⟩ := first offset
    obtain ⟨reached, there⟩ := second middle
    refine ⟨reached, ?_⟩
    change Except.bind (r ⟨text, offset⟩) _ = _
    rw [here]
    exact there

theorem ComesTo.bind_error {r : Reader α} {fault : Fault} (failed : ComesTo r text (.error fault))
    (f : α → Reader β) : ComesTo (r >>= f) text (.error fault) := by
  intro offset
  obtain ⟨reached, here⟩ := failed offset
  refine ⟨reached, ?_⟩
  change Except.bind (r ⟨text, offset⟩) _ = _
  rw [here]
  rfl

theorem comesTo_orFail (result : Except Fault α) (text : List Char) :
    ComesTo (orFail result) text (result.map fun a => (a, text)) := by
  cases result with
  | ok a => exact reads_pure a text
  | error fault => exact fun offset => ⟨offset, rfl⟩

theorem run_text_of_reads {r : Reader α} {v : Json} {a : α} (reads : Reads r v.chars a []) :
    r.run v.text = .ok a := by
  refine run_of_reads ?_ allBlank_nil
  rwa [Json.text, String.toList_ofList]

theorem run_text_of_comesTo_error {r : Reader α} {v : Json} {fault : Fault}
    (failed : ComesTo r v.chars (.error fault)) :
    ∃ e, r.run v.text = .error e ∧ e.fault = fault := by
  obtain ⟨reached, here⟩ := failed 0
  refine ⟨FaultAt.locate v.chars ⟨fault, reached⟩, ?_, rfl⟩
  simp only [run, Json.text, String.toList_ofList, bind, StateT.bind, Except.bind, here]

end Outcomes

section Parts

theorem reads_stringAs (expected s : String) :
    Reads (stringAs expected) (stringChars s ++ rest) s rest := by
  have text : stringChars s ++ rest = '"' :: (s.toList.flatMap escapeChar ++ '"' :: rest) := by
    simp [stringChars]
  rw [text]
  refine (reads_peek_dense (dense_cons _ rfl)).bind ?_
  exact (reads_advance '"' _).bind (reads_string s)

theorem reads_optional_string (s : String) :
    Reads (optional plainString) (stringChars s ++ rest) (some s) rest :=
  (reads_peek_dense (dense_cons _ rfl)).bind ((reads_stringAs _ s).map _)

theorem entryChars_strings (first : Bool) (es : List (String × String)) :
    entryChars first (es.map fun e => (e.1, .string e.2)) = entriesText [] [] stringChars first es := by
  induction es generalizing first with
  | nil => rfl
  | cons entry more ih => simp [entryChars, entriesText, chars, ih]

theorem reads_mapOf (m : TextMap String) :
    Reads (mapOf plainString) ((Json.object (m.entries.map fun e => (e.1, .string e.2))).chars ++ rest)
      m rest := by
  have text : (Json.object (m.entries.map fun e => (e.1, .string e.2))).chars ++ rest =
      '\x7b' :: (entriesText [] [] stringChars true m.entries ++ ([] ++ '\x7d' :: rest)) := by
    simp [chars, entryChars_strings]
  have each (entry : String × String) (_ : entry ∈ m.entries) (rest : List Char) (_ : Ended rest) :
      Reads plainString ([] ++ (stringChars entry.2 ++ rest)) (id entry.2) rest :=
    reads_stringAs _ entry.2
  have inner : Reads (object plainString)
      (entriesText [] [] stringChars true m.entries ++ ([] ++ '\x7d' :: rest))
      (m.entries.map fun entry => (entry.1, id entry.2)) rest :=
    reads_object allBlank_nil allBlank_nil each
  simp only [id_eq, Prod.mk.eta, List.map_id_fun'] at inner
  rw [text]
  refine (reads_peek_dense (dense_cons _ rfl)).bind ((reads_advance _ _).bind ?_)
  have mapped := inner.map TextMap.ofList
  rwa [TextMap.ofList_entries] at mapped

end Parts

section Lists

variable {item : Reader β} {encode : α → Json} {meaning : α → β}

theorem reads_listOf {as : List α}
    (each : ∀ a ∈ as, ∀ rest, Ended rest → Reads item ((encode a).chars ++ rest) (meaning a) rest) :
    Reads (listOf item) ((Json.array (as.map encode)).chars ++ rest) (as.map meaning) rest := by
  have text : (Json.array (as.map encode)).chars ++ rest =
      '[' :: (itemsText [] (fun a => (encode a).chars) true as ++ ([] ++ ']' :: rest)) := by
    simp [chars, itemChars_eq, itemsText_map]
  rw [text]
  refine (reads_peek_dense (dense_cons _ rfl)).bind ((reads_advance _ _).bind ?_)
  exact reads_list allBlank_nil allBlank_nil (fun a _ => opens_chars (encode a)) each

end Lists

section Records

variable {slots : List (Slot δ)} {slot : Slot δ} {d d' : δ} {key : String} {v : Json}
  {es more : List (String × Json)} {fault : Fault}

/-- The slots take the entries in one by one and bring a draft to another. -/
inductive Filled (slots : List (Slot δ)) : δ → List (String × Json) → δ → Prop
  | nil (d : δ) : Filled slots d [] d
  | cons {d d' : δ} {key : String} {v : Json} {more : List (String × Json)} {slot : Slot δ} {fill : δ → δ}
      (known : slots.find? (·.name == key) = some slot) (vacant : slot.filled d = false)
      (read : ∀ rest, Ended rest → Reads slot.read (v.chars ++ rest) fill rest)
      (later : Filled slots (fill d) more d') : Filled slots d ((key, v) :: more) d'

theorem Filled.append {d'' : δ} (first : Filled slots d es d') (second : Filled slots d' more d'') :
    Filled slots d (es ++ more) d'' := by
  induction first with
  | nil => exact second
  | cons known vacant read _ ih => exact .cons known vacant read (ih second)

theorem ended_entryChars (es : List (String × Json)) :
    Ended (entryChars false es ++ '\x7d' :: rest) := by
  cases es with
  | nil => exact ended_cons _ (by decide)
  | cons entry more => exact ended_cons _ (by decide)

theorem entryChars_cons (first : Bool) (key : String) (v : Json) (more : List (String × Json)) :
    entryChars first ((key, v) :: more) ++ '\x7d' :: rest =
      (if first then [] else [',']) ++ [] ++ '"' :: (key.toList.flatMap escapeChar ++ '"' :: ([] ++ ':' ::
        (v.chars ++ (entryChars false more ++ '\x7d' :: rest)))) := by
  simp [entryChars, stringChars]

theorem record_entry_read {fuel : Nat} {first : Bool}
    {outcome : Except Fault (δ × List Char)} (known : slots.find? (·.name == key) = some slot)
    (vacant : slot.filled d = false)
    (value : ComesTo (slot.read >>= fun fill => recordEntries slots fuel false (fill d))
      (v.chars ++ (entryChars false more ++ '\x7d' :: rest)) outcome) :
    ComesTo (recordEntries slots (fuel + 1) first d)
      (entryChars first ((key, v) :: more) ++ '\x7d' :: rest) outcome := by
  rw [entryChars_cons]
  refine (reads_hasKey allBlank_nil first).bind_comesTo ?_
  refine (reads_string key).bind_comesTo ?_
  simp only [known, vacant]
  exact (reads_colon allBlank_nil).bind_comesTo value

/-- Behind the entries that slots take in, reading goes on with the draft that they leave. -/
theorem Filled.comesTo (filled : Filled slots d es d') {fuel : Nat}
    {outcome : Except Fault (δ × List Char)} (first : Bool)
    (after : ComesTo (recordEntries slots fuel (first && es.isEmpty) d')
      (entryChars (first && es.isEmpty) more ++ '\x7d' :: rest) outcome) :
    ComesTo (recordEntries slots (fuel + es.length) first d)
      (entryChars first (es ++ more) ++ '\x7d' :: rest) outcome := by
  induction filled generalizing first with
  | nil d => simpa using after
  | cons known vacant read later ih =>
    refine record_entry_read known vacant ?_
    refine (read _ (ended_entryChars _)).bind_comesTo (ih false ?_)
    simpa using after

theorem reads_recordEntries_end {fuel : Nat} (first : Bool) (d : δ) :
    Reads (recordEntries slots (fuel + 1) first d) (entryChars first [] ++ '\x7d' :: rest) d rest := by
  rw [entryChars]
  exact (reads_hasKey_end allBlank_nil first).bind (reads_endObject.bind (reads_pure _ _))

variable {expected : String} {blank : δ} {ofObject : δ → Except Fault α}
  {ofList : Nat → δ → Except Fault α}

theorem length_le_entryChars (first : Bool) (es : List (String × Json)) :
    es.length ≤ (entryChars first es).length := by
  rw [entryChars_eq]
  exact length_le_entriesText [] [] chars first es

theorem comesTo_record {outcome : Except Fault (α × List Char)}
    (entries : ∀ fuel, es.length < fuel →
      ComesTo (recordEntries slots fuel true blank >>= fun draft => orFail (ofObject draft))
        (entryChars true es ++ '\x7d' :: rest) outcome) :
    ComesTo (record expected slots blank ofObject ofList) ((Json.object es).chars ++ rest) outcome := by
  have text : (Json.object es).chars ++ rest = '\x7b' :: (entryChars true es ++ '\x7d' :: rest) := by
    simp [chars]
  have long := length_le_entryChars true es
  rw [text]
  refine (reads_peek_dense (dense_cons _ rfl)).bind_comesTo ?_
  refine (reads_advance _ _).bind_comesTo ((reads_remaining _).bind_comesTo (entries _ ?_))
  rw [List.length_append]
  omega

/-- Entries that all go into slots make the record of the draft that they leave. -/
theorem Filled.comesTo_record (filled : Filled slots blank es d) (rest : List Char) :
    ComesTo (record expected slots blank ofObject ofList) ((Json.object es).chars ++ rest)
      ((ofObject d).map fun a => (a, rest)) := by
  refine Reader.comesTo_record fun fuel enough => ?_
  obtain ⟨more, rfl⟩ := Nat.exists_eq_add_of_lt enough
  have all : ComesTo (recordEntries slots (more + 1 + es.length) true blank)
      (entryChars true (es ++ []) ++ '\x7d' :: rest) (.ok (d, rest)) :=
    filled.comesTo true (reads_recordEntries_end _ d)
  rw [List.append_nil] at all
  rw [show es.length + more + 1 = more + 1 + es.length by omega]
  exact Reads.bind_comesTo all (comesTo_orFail _ rest)

/-- The fault of the first value that its slot does not read is that of the record. -/
theorem Filled.comesTo_record_error (filled : Filled slots blank es d)
    (known : slots.find? (·.name == key) = some slot) (vacant : slot.filled d = false)
    (failed : ∀ rest, Ended rest → ComesTo slot.read (v.chars ++ rest) (.error fault))
    (more : List (String × Json)) (rest : List Char) :
    ComesTo (record expected slots blank ofObject ofList)
      ((Json.object (es ++ (key, v) :: more)).chars ++ rest) (.error fault) := by
  refine Reader.comesTo_record fun fuel enough => ComesTo.bind_error ?_ _
  rw [List.length_append, List.length_cons] at enough
  obtain ⟨spare, rfl⟩ := Nat.exists_eq_add_of_lt enough
  rw [show es.length + (more.length + 1) + spare + 1 = (more.length + 1 + spare) + 1 + es.length by omega]
  refine filled.comesTo true (record_entry_read known vacant ?_)
  exact (failed _ (ended_entryChars more)).bind_error _

end Records

end Json.Reader
end BeamRun
