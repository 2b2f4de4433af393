import BeamRun.Proofs.Catalogue
import BeamRun.Proofs.Entries
import BeamRun.Validation

namespace BeamRun.Payload

theorem lookup_eq_none_iff (p : Payload) (f : Field) :
    p.lookup f = none ↔ ∀ key ∈ f.spellings, p.get? key = none := by
  simp [lookup]

theorem lookup_eq_none_iff_keys {p : Payload} {f : Field} :
    p.lookup f = none ↔ ∀ key ∈ f.spellings, key ∉ p.keys := by
  simp [lookup_eq_none_iff, TextMap.get?_eq_none_iff]

/-- An entry counts for a field if its key spells the field and no earlier spelling is there. -/
theorem lookup_eq_some_iff (p : Payload) (f : Field) (key : String) (v : Json) :
    p.lookup f = some (key, v) ↔ p.get? key = some v ∧ ∃ earlier later,
      f.spellings = earlier ++ key :: later ∧ ∀ other ∈ earlier, p.get? other = none := by
  simp only [lookup, List.findSome?_eq_some_iff, Option.map_eq_some_iff, Option.map_eq_none_iff,
    Prod.mk.injEq]
  constructor
  · rintro ⟨earlier, other, later, split, ⟨value, found, rfl, rfl⟩, missing⟩
    exact ⟨found, earlier, later, split, missing⟩
  · rintro ⟨found, earlier, later, split, missing⟩
    exact ⟨earlier, key, later, split, ⟨v, found, rfl, rfl⟩, missing⟩

theorem mem_spellings_of_lookup {p : Payload} {f : Field} {key : String} {v : Json}
    (found : p.lookup f = some (key, v)) : key ∈ f.spellings := by
  obtain ⟨-, earlier, later, split, -⟩ := (lookup_eq_some_iff p f key v).mp found
  rw [split]
  exact List.mem_append_right earlier List.mem_cons_self

theorem get?_of_lookup {p : Payload} {f : Field} {key : String} {v : Json}
    (found : p.lookup f = some (key, v)) : p.get? key = some v :=
  ((lookup_eq_some_iff p f key v).mp found).1

theorem lookup_congr {p q : Payload} {f : Field}
    (same : ∀ key ∈ f.spellings, p.get? key = q.get? key) : p.lookup f = q.lookup f := by
  unfold lookup
  revert same
  induction f.spellings with
  | nil => intro _; rfl
  | cons key rest ih =>
    intro same
    rw [List.findSome?_cons, List.findSome?_cons, same key List.mem_cons_self,
      ih fun other member => same other (List.mem_cons_of_mem key member)]

theorem lookup_of_name {p : Payload} {f : Field} {v : Json} (present : p.get? f.name = some v) :
    p.lookup f = some (f.name, v) := by
  simp [lookup, Field.spellings, present]

theorem mem_unknownKeys_iff (p : Payload) (key : String) :
    key ∈ p.unknownKeys ↔ key ∈ p.keys ∧ ∀ f : Field, key ∉ f.spellings := by
  simp [unknownKeys, Field.unspelled_iff]

theorem unknownKeys_eq_nil_iff (p : Payload) :
    p.unknownKeys = [] ↔ ∀ key ∈ p.keys, ∃ f : Field, key ∈ f.spellings := by
  simp [List.eq_nil_iff_forall_not_mem, mem_unknownKeys_iff]

theorem entryNames_nodup (o : Options) :
    ((Field.all.map fun f => (f.name, o.valueOf f)).map (·.1)).Nodup := by
  rw [List.map_map]
  exact Field.names_nodup

theorem get_of_options_iff (o : Options) (key : String) (v : Json) :
    (ofOptions o).get? key = some v ↔ ∃ f : Field, f.name = key ∧ o.valueOf f = v := by
  constructor
  · intro found
    obtain ⟨f, -, same⟩ := List.mem_map.mp (TextMap.mem_of_get_in_list found)
    cases same
    exact ⟨f, rfl, rfl⟩
  · rintro ⟨f, rfl, rfl⟩
    exact TextMap.get_in_list_of_mem (entryNames_nodup o) (List.mem_map_of_mem f.mem_all)

theorem lookup_of_options (o : Options) (f : Field) :
    (ofOptions o).lookup f = some (f.name, o.valueOf f) :=
  lookup_of_name ((get_of_options_iff o f.name _).mpr ⟨f, rfl, rfl⟩)

theorem no_unknown_keys_of_options (o : Options) : (ofOptions o).unknownKeys = [] := by
  apply (unknownKeys_eq_nil_iff _).mpr
  intro key present
  obtain ⟨v, found⟩ := (TextMap.mem_keys_iff _ _).mp present
  obtain ⟨f, rfl, -⟩ := (get_of_options_iff o key v).mp found
  exact ⟨f, f.name_mem_spellings⟩

/-- What is concluded from a document is concluded from the payload that it is read as. -/
theorem exists_of_map_parse {α : Type} {text : String} {verdict : Payload → α} {a : α}
    (run : (parse text).map verdict = .ok a) : ∃ p, parse text = .ok p ∧ verdict p = a := by
  cases parsed : parse text with
  | error e =>
    rw [parsed] at run
    cases run
  | ok p =>
    rw [parsed] at run
    exact ⟨p, rfl, Except.ok.inj run⟩

end BeamRun.Payload

/-! Options are written in two ways: as a document, by the members of the record, and as a payload, by
the fields of the catalogue. Both ways come to the same names over the same values. -/

namespace BeamRun

theorem Scattering.toJson_eq (s : Scattering) : s.toJson = .string s.name := by
  cases s <;> rfl

theorem Straggling.toJson_eq (s : Straggling) : s.toJson = .string s.name := by
  cases s <;> rfl

namespace Options

theorem camelCase_members (o : Options) :
    (o.members.map fun m => Text.camelCase m.1) = Field.all.map Field.name := by
  simp only [members, List.map_cons, List.map_nil]
  decide +kernel

theorem values_members (o : Options) : o.members.map (·.2) = Field.all.map o.valueOf := by
  simp only [members, Scattering.toJson_eq, Straggling.toJson_eq]
  rfl

theorem toJson_eq (o : Options) : o.toJson = .object (Field.all.map fun f => (f.name, o.valueOf f)) := by
  have entries : (o.members.map fun m => (Text.camelCase m.1, m.2)) =
      (Field.all.map Field.name).zip (Field.all.map o.valueOf) := by
    refine List.zip_of_prod ?_ ?_
    · rw [List.map_map]
      exact o.camelCase_members
    · rw [List.map_map]
      exact o.values_members
  rw [toJson, entries, List.zip_map']

theorem valueOf_eq_string_iff (o : Options) (f : Field) (literal : String) :
    o.valueOf f = .string literal ↔
      f = .scatteringType ∧ Scattering.ofName? literal = some o.scatteringType ∨
        f = .energyStraggling ∧ Straggling.ofName? literal = some o.energyStraggling := by
  have real (x : Binary64) : Json.ofBinary64 x ≠ .string literal := by
    unfold Json.ofBinary64
    split <;> exact nofun
  rw [Scattering.of_name_iff, Straggling.of_name_iff]
  cases f with
  | scatteringType => simp [valueOf, Domain.encode, get]
  | energyStraggling => simp [valueOf, Domain.encode, get]
  | meanEnergyLoss | minEnergyLoss | lowEnergyNeutronCutOff =>
    simpa [valueOf, Domain.encode] using real _
  | _ => simp [valueOf, Domain.encode, Json.ofCount]

/-- The document of any options and the payload made of them hold the same eleven entries, so that the
document is read as this payload. The payload gives every field under its name, spells nothing else, and
its literals are those that are read as the models of the options. -/
theorem encoders_agree (o : Options) :
    (∃ entries, o.toJson = .object entries ∧ entries.map (·.1) = Field.all.map Field.name ∧
      (Payload.ofOptions o).entries.Perm entries) ∧
    (Payload.ofOptions o).size = 11 ∧
    Payload.ofJson o.toJson = .ok (.ofOptions o) ∧
    (∀ f : Field, (Payload.ofOptions o).lookup f = some (f.name, o.valueOf f)) ∧
    (Payload.ofOptions o).unknownKeys = [] ∧
    ∀ key literal, (Payload.ofOptions o).get? key = some (.string literal) ↔
      key = Field.scatteringType.name ∧ Scattering.ofName? literal = some o.scatteringType ∨
        key = Field.energyStraggling.name ∧ Straggling.ofName? literal = some o.energyStraggling := by
  have held : (Payload.ofOptions o).entries.Perm (Field.all.map fun f => (f.name, o.valueOf f)) :=
    TextMap.entries_ofList_perm (Payload.entryNames_nodup o)
  refine ⟨⟨_, o.toJson_eq, ?_, held⟩, ?_, ?_, Payload.lookup_of_options o,
    Payload.no_unknown_keys_of_options o, ?_⟩
  · rw [List.map_map]
    rfl
  · exact held.length_eq
  · rw [toJson_eq]
    rfl
  · intro key literal
    rw [Payload.get_of_options_iff]
    simp only [valueOf_eq_string_iff]
    constructor
    · rintro ⟨f, rfl, ⟨rfl, read⟩ | ⟨rfl, read⟩⟩
      · exact .inl ⟨rfl, read⟩
      · exact .inr ⟨rfl, read⟩
    · rintro (⟨rfl, read⟩ | ⟨rfl, read⟩)
      · exact ⟨_, rfl, .inl ⟨rfl, read⟩⟩
      · exact ⟨_, rfl, .inr ⟨rfl, read⟩⟩

end Options
end BeamRun
