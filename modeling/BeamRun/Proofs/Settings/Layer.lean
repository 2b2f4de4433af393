import BeamRun.Proofs.Entries
import BeamRun.Settings.Layer

namespace BeamRun

theorem Ascending.nodup {α : Type} {entries : List (String × α)} (ascending : Ascending entries) :
    (entries.map (·.1)).Nodup :=
  (TextMap.mk entries ascending).keys_nodup

namespace Settings

namespace Setting

def word? : Setting → Option String
  | leaf _ (.text s) => some s
  | _ => none

/-- Over an earlier value a later one keeps its text. -/
theorem word_of_joined (earlier : Option Setting) (v : Setting) : (joined earlier v).word? = v.word? := by
  cases v with
  | leaf s c => rw [joined]
  | table s entries =>
    rcases earlier with _ | ⟨s', c⟩ | ⟨s', base⟩
    · simp [joined, word?]
    · simp [joined, word?]
    · simp [joined, word?]

theorem get_in_joined_layers {entries : List (String × Setting)} (distinct : (entries.map (·.1)).Nodup)
    (base : List (String × Setting)) (key : String) :
    Entries.get? (joinEntries base entries) key =
      (Entries.get? entries key).elim (Entries.get? base key)
        fun v => some (joined (Entries.get? base key) v) := by
  induction entries generalizing base with
  | nil =>
    rw [joinEntries]
    rfl
  | cons entry rest ih =>
    rcases entry with ⟨k, v⟩
    rw [List.map_cons, List.nodup_cons] at distinct
    rw [joinEntries, ih distinct.2, Entries.get?_insert, Entries.get?_cons]
    by_cases here : key = k
    · have absent : Entries.get? rest k = none := by
        cases found : Entries.get? rest k with
        | none => rfl
        | some w => exact absurd (List.mem_map_of_mem (Entries.mem_of_get found)) distinct.1
      subst here
      rw [absent, if_pos rfl, if_pos rfl, Option.elim_none, Option.elim_some]
    · rw [if_neg here, if_neg here]

/-- Key by key, the later of two layers tells the text. -/
theorem word_in_joined_layers {entries : List (String × Setting)}
    (distinct : (entries.map (·.1)).Nodup) (base : List (String × Setting)) (key : String) :
    (Entries.get? (joinEntries base entries) key).map (·.word?) =
      ((Entries.get? entries key).map (·.word?)).or ((Entries.get? base key).map (·.word?)) := by
  rw [get_in_joined_layers distinct]
  cases Entries.get? entries key with
  | none => rfl
  | some v => simp [word_of_joined]

theorem joinEntries_ascending {base : List (String × Setting)} (ascending : Ascending base)
    (entries : List (String × Setting)) : Ascending (joinEntries base entries) := by
  induction entries generalizing base with
  | nil =>
    rw [joinEntries]
    exact ascending
  | cons entry rest ih =>
    rw [joinEntries]
    exact ih (Entries.insert_ascending ascending)

end Setting

section Toml

theorem ofTomlEntries_ascending (source : Source) (entries : List (String × Toml.Value)) :
    Ascending (ofTomlEntries source entries) := by
  induction entries with
  | nil =>
    rw [ofTomlEntries]
    exact List.Pairwise.nil
  | cons entry rest ih =>
    rw [ofTomlEntries]
    exact Entries.insert_ascending ih

theorem get_in_toml_entries (source : Source) (entries : List (String × Toml.Value)) (key : String) :
    Entries.get? (ofTomlEntries source entries) key = (entries.lookup key).map (ofToml source) := by
  induction entries with
  | nil =>
    rw [ofTomlEntries]
    rfl
  | cons entry rest ih =>
    rcases entry with ⟨k, v⟩
    rw [ofTomlEntries, Entries.get?_insert, ih, List.lookup_cons]
    by_cases here : key = k
    · simp [here]
    · have differs : (key == k) = false := by simpa using here
      simp [here, differs]

end Toml

section Policies

theorem decode_eq_ok_iff {α : Type} {type : String} {names : List (String × α)} {key : String}
    {v : Setting} {a : α} :
    decode type names key v = .ok a ↔ v.word?.bind (List.lookup · names) = some a := by
  rcases v with ⟨source, content⟩ | ⟨source, entries⟩
  · cases content with
    | text s =>
      simp only [decode, Setting.word?, Option.bind_some]
      cases names.lookup s <;> simp
    | _ => simp [decode, Setting.word?]
  · cases entries with
    | nil => simp [decode, Setting.word?]
    | cons entry rest =>
      simp only [decode, Setting.word?, Option.bind_none]
      split <;> simp

theorem ofLayer_congr {layer layer' : Layer}
    (cutoff : Entries.get? layer' "neutron_cutoff" = Entries.get? layer "neutron_cutoff")
    (keys : Entries.get? layer' "unknown_keys" = Entries.get? layer "unknown_keys") :
    ofLayer layer' = ofLayer layer := by
  simp only [ofLayer, decodeKey, cutoff, keys]

/-- A value is decoded exactly if it is a text, and then as what has the text for its name. -/
theorem decode_named {α : Type} {all : List α} {name : α → String} (complete : ∀ a, a ∈ all)
    (distinct : (all.map name).Nodup) {type key : String} {v : Setting} {a : α} :
    decode type (all.map fun a => (name a, a)) key v = .ok a ↔ v.word? = some (name a) := by
  have named {s : String} : (all.map fun a => (name a, a)).lookup s = some a ↔ s = name a := by
    constructor
    · intro found
      rcases List.mem_map.mp (Entries.mem_of_get found) with ⟨b, -, same⟩
      cases same
      rfl
    · intro same
      subst same
      refine Entries.get?_of_mem ?_ (List.mem_map.mpr ⟨a, complete a, rfl⟩)
      rwa [List.map_map]
  simp only [decode_eq_ok_iff, Option.bind_eq_some_iff, named, exists_eq_right]

variable {layer : Layer} {cutoff keys : Setting}

theorem ofLayer_eq_ok_iff (first : Entries.get? layer "neutron_cutoff" = some cutoff)
    (second : Entries.get? layer "unknown_keys" = some keys) {s : Settings} :
    ofLayer layer = .ok s ↔
      cutoff.word? = some s.neutronCutoff.name ∧ keys.word? = some s.unknownKeys.name := by
  have cutoffs (p : NeutronCutoffPolicy) :
      decode "NeutronCutoffPolicy" (NeutronCutoffPolicy.all.map fun p => (p.name, p))
        "neutron_cutoff" cutoff = .ok p ↔ cutoff.word? = some p.name :=
    decode_named (by intro p; cases p <;> decide) (by decide)
  have policies (p : UnknownKeyPolicy) :
      decode "UnknownKeyPolicy" (UnknownKeyPolicy.all.map fun p => (p.name, p))
        "unknown_keys" keys = .ok p ↔ keys.word? = some p.name :=
    decode_named (by intro p; cases p <;> decide) (by decide)
  rw [← cutoffs, ← policies]
  simp only [ofLayer, decodeKey, first, second]
  cases decode "NeutronCutoffPolicy" _ "neutron_cutoff" cutoff with
  | error f => simp [bind, Except.bind]
  | ok c =>
    cases decode "UnknownKeyPolicy" _ "unknown_keys" keys with
    | error f => simp [bind, Except.bind]
    | ok k =>
      cases s
      simp [bind, Except.bind, pure, Except.pure, and_comm]

end Policies

end Settings
end BeamRun
