import BeamRun.Loading
import BeamRun.Proofs.Settings.Variable

/-! Which source decides a setting. Each of the two keys is taken on its own from the variable for it, else
from the file, else from what is built in; only what is taken can be wrong, and nothing else is looked
at. -/

namespace BeamRun.Settings

inductive Written where
  | environment (text : String)
  | file (v : Toml.Value)
  | builtin (name : String)

/-- The text that a value is, if it is one; a policy is told by its name. -/
def Written.word? : Written → Option String
  | environment text => (Variable.ofText text).word?
  | file (.scalar (.string s)) => some s
  | file _ => none
  | builtin name => some name

theorem word_of_toml (source : Source) (v : Toml.Value) :
    (ofToml source v).word? = (Written.file v).word? := by
  rcases v with s | items | entries
  · cases s <;> simp [ofToml, Setting.word?, Written.word?]
  · simp [ofToml, Setting.word?, Written.word?]
  · simp [ofToml, Setting.word?, Written.word?]

/-- What stands for a key in the last source that has it. -/
def chosen (environment : List (String × String)) (entries : List (String × Toml.Value))
    (key preset : String) : Written :=
  match (Variable.texts environment key).getLast?, entries.lookup key with
  | some text, _ => .environment text
  | none, some v => .file v
  | none, none => .builtin preset

def chosenUnknownKeys (environment : List (String × String)) (entries : List (String × Toml.Value)) :
    Written :=
  chosen environment entries "unknown_keys" lenient.unknownKeys.name

def chosenNeutronCutoff (environment : List (String × String))
    (entries : List (String × Toml.Value)) : Written :=
  chosen environment entries "neutron_cutoff" lenient.neutronCutoff.name

/-- The entries of the file that is asked for, if it is a document. -/
inductive FileEntries (files : Files) : Option String → List (String × Toml.Value) → Prop
  | absent : FileEntries files none []
  | document {path text : String} {bytes : ByteArray} {entries : List (String × Toml.Value)}
      (found : files path = .regular (.ok bytes)) (decoded : String.fromUTF8? bytes = some text)
      (parsed : Toml.parse? text = some entries) : FileEntries files (some path) entries

/-- The source that the entries of a file are laid to. -/
def sourceOf : Option String → Source
  | none => .builtin
  | some path => .file (shownPath path)

/-- What the three sources come to. -/
def merged (source : Source) (entries : List (String × Toml.Value))
    (environment : List (String × String)) : Layer :=
  flatten [builtinLayer, ofTomlEntries source entries, Variable.layer environment]

variable {files files' : Files} {environment environment' : List (String × String)} {path : Option String}
  {entries entries' : List (String × Toml.Value)} {key : String}

section Merged

theorem merged_eq (source : Source) (entries : List (String × Toml.Value))
    (environment : List (String × String)) :
    merged source entries environment =
      Setting.joinEntries
        (Setting.joinEntries (Setting.joinEntries [] builtinLayer) (ofTomlEntries source entries))
        (Variable.layer environment) :=
  rfl

theorem get_in_merged_layers (source : Source) (nonempty : key ≠ "")
    (undotted : ∀ v ∈ environment, '.' ∉ v.1.toList) (undotted' : ∀ v ∈ environment', '.' ∉ v.1.toList)
    (texts : Variable.texts environment' key = Variable.texts environment key)
    (found : entries'.lookup key = entries.lookup key) :
    Entries.get? (merged source entries' environment') key =
      Entries.get? (merged source entries environment) key := by
  simp only [merged_eq, Setting.get_in_joined_layers (Variable.layer_ascending _).nodup,
    Setting.get_in_joined_layers (ofTomlEntries_ascending _ _).nodup, get_in_toml_entries,
    Variable.get_in_variable_layer undotted nonempty, Variable.get_in_variable_layer undotted' nonempty, texts, found]

theorem word_in_merged_layers (key : String) (source : Source) (entries : List (String × Toml.Value))
    (nonempty : key ≠ "")
    (undotted : ∀ v ∈ environment, '.' ∉ v.1.toList) {preset : String}
    (builtin : Entries.get? builtinLayer key = some (.leaf .builtin (.text preset))) :
    ∃ v, Entries.get? (merged source entries environment) key = some v ∧
      v.word? = (chosen environment entries key preset).word? := by
  have distinct : (builtinLayer.map (·.1)).Nodup := by decide
  rw [← Option.map_eq_some_iff, merged_eq,
    Setting.word_in_joined_layers (Variable.layer_ascending _).nodup,
    Setting.word_in_joined_layers (ofTomlEntries_ascending _ _).nodup,
    Setting.word_in_joined_layers distinct, Variable.word_in_variable_layer undotted nonempty,
    get_in_toml_entries, builtin, chosen]
  cases (Variable.texts environment key).getLast? with
  | some text => rfl
  | none =>
    cases entries.lookup key with
    | some v => simp [word_of_toml]
    | none => rfl

end Merged

theorem FileEntries.resolve_eq (read : FileEntries files path entries)
    (environment : List (String × String)) :
    resolve files environment path =
      (ofLayer (merged (sourceOf path) entries environment)).mapError .settingsInvalid := by
  cases read with
  | absent =>
    simp only [resolve, merged, ofTomlEntries]
    rfl
  | @document path text bytes entries found decoded parsed =>
    have isFile : files.isFile path = true := by rw [Files.isFile, found]
    have bytesRead : files.read path = .ok bytes := by rw [Files.read, found]
    have layer : fileLayer files path = .ok (ofTomlEntries (.file (shownPath path)) entries) := by
      simp only [fileLayer, Files.readText, bytesRead, Files.decode, decoded, Option.elim_some, parsed]
    simp only [resolve, isFile, if_true, layer, merged, sourceOf]
    rfl

theorem load_result (files : Files) (environment : List (String × String)) (path : Option String) :
    (load files environment path).result = resolve files environment path := by
  rw [load]
  cases resolve files environment path <;> rfl

theorem settings_invalid_of_fault {α : Type} {x : Except Fault α} {f : OptionsFailure}
    (failed : x.mapError .settingsInvalid = .error f) : ∃ fault, f = .settingsInvalid fault := by
  cases x with
  | ok a => cases failed
  | error fault =>
    cases failed
    exact ⟨fault, rfl⟩

theorem resolve_of_irregular {p : String} (irregular : ∀ content, files p ≠ .regular content)
    (environment : List (String × String)) :
    resolve files environment (some p) = .error (.settingsMissing p) := by
  have isFile : files.isFile p = false := by
    rw [Files.isFile]
    cases found : files p with
    | regular content => exact absurd found (irregular content)
    | _ => rfl
  simp only [resolve, isFile, Bool.false_eq_true, if_false]
  rfl

/-- Whatever fails lies in the values, unless there is no file to take them from. -/
theorem resolve_error_cases {f : OptionsFailure} (failed : resolve files environment path = .error f) :
    (∃ fault, f = .settingsInvalid fault) ∨
      ∃ p, path = some p ∧ (∀ content, files p ≠ .regular content) ∧ f = .settingsMissing p := by
  cases path with
  | none => exact .inl (settings_invalid_of_fault failed)
  | some p =>
    by_cases regular : ∃ content, files p = .regular content
    · obtain ⟨content, found⟩ := regular
      have isFile : files.isFile p = true := by rw [Files.isFile, found]
      simp only [resolve, isFile, if_true] at failed
      cases layer : fileLayer files p with
      | ok entries =>
        rw [layer] at failed
        exact .inl (settings_invalid_of_fault failed)
      | error fault =>
        rw [layer] at failed
        cases failed
        exact .inl ⟨fault, rfl⟩
    · have irregular := not_exists.mp regular
      rw [resolve_of_irregular irregular] at failed
      cases failed
      exact .inr ⟨p, rfl, irregular, rfl⟩

/-- A name is missed exactly if no regular file stands under it. -/
theorem load_eq_missing_iff (files : Files) (environment : List (String × String)) (path : Option String)
    (p : String) :
    (load files environment path).result = .error (.settingsMissing p) ↔
      path = some p ∧ ∀ content, files p ≠ .regular content := by
  rw [load_result]
  constructor
  · intro failed
    rcases resolve_error_cases failed with ⟨fault, same⟩ | ⟨q, rfl, irregular, same⟩
    · cases same
    · cases same
      exact ⟨rfl, irregular⟩
  · rintro ⟨rfl, irregular⟩
    exact resolve_of_irregular irregular environment

/-- Loading succeeds with what the two chosen values tell, if both tell a policy. -/
theorem FileEntries.load_eq_ok_iff (read : FileEntries files path entries)
    (undotted : ∀ v ∈ environment, '.' ∉ v.1.toList) (s : Settings) :
    (load files environment path).result = .ok s ↔
      (chosenUnknownKeys environment entries).word? = some s.unknownKeys.name ∧
        (chosenNeutronCutoff environment entries).word? = some s.neutronCutoff.name := by
  obtain ⟨cutoff, first, cutoffWord⟩ :=
    word_in_merged_layers "neutron_cutoff" (sourceOf path) entries (by decide) undotted rfl
  obtain ⟨keys, second, keysWord⟩ :=
    word_in_merged_layers "unknown_keys" (sourceOf path) entries (by decide) undotted rfl
  rw [load_result, read.resolve_eq, chosenUnknownKeys, chosenNeutronCutoff, ← cutoffWord, ← keysWord,
    and_comm, ← ofLayer_eq_ok_iff first second]
  exact mapError_eq_ok_iff

theorem FileEntries.load_cases (read : FileEntries files path entries)
    (environment : List (String × String)) :
    (∃ s, (load files environment path).result = .ok s) ∨
      ∃ fault, (load files environment path).result = .error (.settingsInvalid fault) := by
  rw [load_result, read.resolve_eq]
  cases ofLayer (merged (sourceOf path) entries environment) with
  | ok s => exact .inl ⟨s, rfl⟩
  | error fault => exact .inr ⟨fault, rfl⟩

theorem FileEntries.load_eq_error_iff (read : FileEntries files path entries)
    (undotted : ∀ v ∈ environment, '.' ∉ v.1.toList) :
    (∃ fault, (load files environment path).result = .error (.settingsInvalid fault)) ↔
      (∀ p : UnknownKeyPolicy, (chosenUnknownKeys environment entries).word? ≠ some p.name) ∨
        ∀ p : NeutronCutoffPolicy, (chosenNeutronCutoff environment entries).word? ≠ some p.name := by
  have ok := read.load_eq_ok_iff undotted
  constructor
  · rintro ⟨fault, failed⟩
    by_cases told : ∃ p : UnknownKeyPolicy, (chosenUnknownKeys environment entries).word? = some p.name
    · right
      intro cutoff cutoffWord
      obtain ⟨keys, keysWord⟩ := told
      have succeeded := (ok ⟨keys, cutoff⟩).mpr ⟨keysWord, cutoffWord⟩
      rw [failed] at succeeded
      cases succeeded
    · exact .inl (not_exists.mp told)
  · intro wrong
    rcases read.load_cases environment with ⟨s, succeeded⟩ | failed
    · obtain ⟨keysWord, cutoffWord⟩ := (ok s).mp succeeded
      rcases wrong with noKeys | noCutoff
      · exact absurd keysWord (noKeys _)
      · exact absurd cutoffWord (noCutoff _)
    · exact failed

/-- Sources that agree on the two keys load alike, failures and events included. -/
theorem FileEntries.load_congr (read : FileEntries files path entries)
    (read' : FileEntries files' path entries') (undotted : ∀ v ∈ environment, '.' ∉ v.1.toList)
    (undotted' : ∀ v ∈ environment', '.' ∉ v.1.toList)
    (agree : ∀ key ∈ ["unknown_keys", "neutron_cutoff"],
      Variable.texts environment' key = Variable.texts environment key ∧
        entries'.lookup key = entries.lookup key) :
    load files' environment' path = load files environment path := by
  have same (key : String) (member : key ∈ ["unknown_keys", "neutron_cutoff"]) (nonempty : key ≠ "") :
      Entries.get? (merged (sourceOf path) entries' environment') key =
        Entries.get? (merged (sourceOf path) entries environment) key :=
    get_in_merged_layers _ nonempty undotted undotted' (agree key member).1 (agree key member).2
  have layers := ofLayer_congr (same "neutron_cutoff" (by decide) (by decide))
    (same "unknown_keys" (by decide) (by decide))
  rw [load, load, read.resolve_eq, read'.resolve_eq, layers]

/-- Loading misses a file that is asked for exactly if its name stands for no regular file, whatever else
there is. Otherwise each setting is the policy that its chosen value tells, loading fails exactly if one of
the two tells none, and sources that agree on the two keys load alike. -/
theorem load_by_precedence (files : Files) (environment : List (String × String)) (path : Option String) :
    (∀ p, (load files environment path).result = .error (.settingsMissing p) ↔
      path = some p ∧ ∀ content, files p ≠ .regular content) ∧
    ∀ entries, FileEntries files path entries → (∀ v ∈ environment, '.' ∉ v.1.toList) →
      (∀ s, (load files environment path).result = .ok s ↔
        (chosenUnknownKeys environment entries).word? = some s.unknownKeys.name ∧
          (chosenNeutronCutoff environment entries).word? = some s.neutronCutoff.name) ∧
      ((∃ fault, (load files environment path).result = .error (.settingsInvalid fault)) ↔
        (∀ p : UnknownKeyPolicy, (chosenUnknownKeys environment entries).word? ≠ some p.name) ∨
          ∀ p : NeutronCutoffPolicy, (chosenNeutronCutoff environment entries).word? ≠ some p.name) ∧
      ∀ files' environment' entries', FileEntries files' path entries' →
        (∀ v ∈ environment', '.' ∉ v.1.toList) →
        (∀ key ∈ ["unknown_keys", "neutron_cutoff"],
          Variable.texts environment' key = Variable.texts environment key ∧
            entries'.lookup key = entries.lookup key) →
        load files' environment' path = load files environment path := by
  refine ⟨load_eq_missing_iff files environment path, fun entries read undotted =>
    ⟨read.load_eq_ok_iff undotted, read.load_eq_error_iff undotted,
      fun files' environment' entries' read' undotted' agree => ?_⟩⟩
  exact read.load_congr read' undotted undotted' agree

def halfWrong.text : String :=
  "unknown_keys = 3\nneutron_cutoff = 'when_fast_neutron_transport'\n[default]\nx = 1\n"

/-- Next to the settings there are names for what is no regular file. -/
def halfWrong : Files :=
  Files.ofList
    [("half.toml", .regular (.ok halfWrong.text.toUTF8)), ("settings", .directory),
      ("/dev/null", .special (.ok .empty)),
      ("locked/half.toml", .absent (.other "Permission denied (os error 13)"))]

theorem halfWrong.isDocument : (Toml.parse? text).isSome := by decide +kernel

def halfWrong.document : List (String × Toml.Value) := (Toml.parse? text).get isDocument

/-- The policy in quotes. -/
def halfWrong.mended : List (String × String) :=
  [("transport_options_Unknown_Keys", " \"re\\u006aect\" "), ("TRANSPORT_OPTIONS_LEVEL", "loud")]

/-- A number in the place of a policy that the file has right. -/
def halfWrong.broken : List (String × String) :=
  ("TRANSPORT_OPTIONS_NEUTRON_CUTOFF", "3") :: halfWrong.mended

/-- The wrong setting fails unless a variable stands over it, and a wrong variable fails over a setting
that is right; a variable for something else changes nothing. -/
theorem load_by_precedence_halfWrong :
    (∀ p ∈ ["none.toml", "settings", "/dev/null", "locked/half.toml"],
      (load halfWrong halfWrong.mended (some p)).result = .error (.settingsMissing p)) ∧
    (∃ fault, (load halfWrong [] (some "half.toml")).result = .error (.settingsInvalid fault)) ∧
    (load halfWrong halfWrong.mended (some "half.toml")).result =
      .ok ⟨.reject, .whenFastNeutronTransport⟩ ∧
    (∃ fault, (load halfWrong halfWrong.broken (some "half.toml")).result =
      .error (.settingsInvalid fault)) ∧
    load halfWrong (("HOME", "/") :: halfWrong.mended) (some "half.toml") =
      load halfWrong halfWrong.mended (some "half.toml") := by
  have decoded : String.fromUTF8? halfWrong.text.toUTF8 = some halfWrong.text := by decide +kernel
  have read : FileEntries halfWrong (some "half.toml") halfWrong.document :=
    .document rfl decoded (Option.some_get halfWrong.isDocument).symm
  have home : ∀ key ∈ ["unknown_keys", "neutron_cutoff"],
      Variable.texts (("HOME", "/") :: halfWrong.mended) key = Variable.texts halfWrong.mended key := by
    decide +kernel
  have wrongKeys : (chosenUnknownKeys [] halfWrong.document).word? = none := by decide +kernel
  have wrongCutoff : (chosenNeutronCutoff halfWrong.broken halfWrong.document).word? = none := by
    decide +kernel
  obtain ⟨-, bare⟩ := load_by_precedence halfWrong [] (some "half.toml")
  obtain ⟨-, broken⟩ := load_by_precedence halfWrong halfWrong.broken (some "half.toml")
  obtain ⟨-, mended⟩ := load_by_precedence halfWrong halfWrong.mended (some "half.toml")
  obtain ⟨-, bareFails, -⟩ := bare halfWrong.document read (by decide)
  obtain ⟨-, brokenFails, -⟩ := broken halfWrong.document read (by decide)
  obtain ⟨succeeds, -, alike⟩ := mended halfWrong.document read (by decide)
  refine ⟨?_, bareFails.mpr (.inl fun p told => ?_), (succeeds _).mpr (by decide +kernel),
    brokenFails.mpr (.inr fun p told => ?_), ?_⟩
  · intro p listed
    apply ((load_by_precedence halfWrong halfWrong.mended (some p)).1 p).mpr
    refine ⟨rfl, fun content => ?_⟩
    simp only [List.mem_cons, List.not_mem_nil, or_false] at listed
    rcases listed with rfl | rfl | rfl | rfl <;> exact nofun
  · rw [wrongKeys] at told
    cases told
  · rw [wrongCutoff] at told
    cases told
  · exact alike halfWrong _ halfWrong.document read (by decide) fun key member => ⟨home key member, rfl⟩

end BeamRun.Settings
