import BeamRun.Proofs.Validation.Agreement

/-! How a verdict depends on the spellings of a payload: on the values they lead to, and on nothing
else. A key may be replaced by another spelling of its field, and an entry that an earlier spelling
shadows may hold anything or be missing. -/

namespace BeamRun

namespace TextMap

variable {α : Type}

def erase (m : TextMap α) (key : String) : TextMap α :=
  ⟨m.entries.filter fun entry => entry.1 != key, m.ascending.filter _⟩

theorem get?_erase (m : TextMap α) (key other : String) :
    (m.erase key).get? other = if other = key then none else m.get? other := by
  have filtered : (m.erase key).get? other = if other != key then m.get? other else none :=
    Entries.get?_filter (· != key) m.entries other
  rw [filtered]
  by_cases same : other = key <;> simp [same]

theorem get?_insert (m : TextMap α) (key other : String) (value : α) :
    (m.insert key value).get? other = if other = key then some value else m.get? other :=
  Entries.get?_insert key other value m.entries

end TextMap

namespace Payload

variable {p q : Payload} {f : Field}

def rename (p : Payload) (old new : String) : Payload :=
  match p.get? old with
  | none => p
  | some v => (p.erase old).insert new v

theorem get?_rename {old : String} {v : Json} (present : p.get? old = some v) (new key : String) :
    (p.rename old new).get? key =
      if key = new then some v else if key = old then none else p.get? key := by
  rw [rename, present, TextMap.get?_insert, TextMap.get?_erase]

/-- Where a payload holds one spelling of a field only, that one counts. -/
theorem lookup_of_only {key : String} {v : Json} (spelling : key ∈ f.spellings)
    (present : p.get? key = some v)
    (only : ∀ other ∈ f.spellings, other ≠ key → p.get? other = none) :
    p.lookup f = some (key, v) := by
  obtain ⟨earlier, later, split⟩ := List.append_of_mem spelling
  refine (lookup_eq_some_iff p f key v).mpr ⟨present, earlier, later, split, ?_⟩
  intro other before
  have distinct := f.spellings_nodup
  rw [split] at distinct
  have differs : other ≠ key := (List.nodup_append.mp distinct).2.2 other before key List.mem_cons_self
  exact only other (split ▸ List.mem_append_left _ before) differs

/-- Under a later spelling nothing is looked for once an earlier one is there. -/
theorem lookup_of_shadowed {earlier later : String} (order : [earlier, later].Sublist f.spellings)
    (present : earlier ∈ p.keys) (same : ∀ key ≠ later, q.get? key = p.get? key) :
    q.lookup f = p.lookup f := by
  obtain ⟨v, found⟩ := (TextMap.mem_keys_iff p earlier).mp present
  have distinct := f.spellings_nodup
  unfold lookup
  revert order distinct
  induction f.spellings with
  | nil =>
    intro order _
    cases order
  | cons first rest ih =>
    intro order distinct
    obtain ⟨fresh, distinct⟩ := List.nodup_cons.mp distinct
    have laterBehind : later ∈ rest := by
      cases order with
      | cons _ below => exact below.subset (by simp)
      | cons_cons _ below => exact below.subset (by simp)
    have differs : first ≠ later := fun equal => fresh (equal ▸ laterBehind)
    rw [List.findSome?_cons, List.findSome?_cons, same first differs]
    cases order with
    | cons _ below => rw [ih below distinct]
    | cons_cons _ below => rw [found]; rfl

/-- The values that count and the keys left over are the same, whatever the spellings. -/
structure Respells (p q : Payload) : Prop where
  value_eq (f : Field) : (p.lookup f).map (·.2) = (q.lookup f).map (·.2)
  unknownKeys_eq : p.unknownKeys = q.unknownKeys

/-- Whatever keys it finds, a field is given by both payloads or by none, with one value. -/
theorem Respells.lookup_cases (h : p.Respells q) (f : Field) :
    p.lookup f = none ∧ q.lookup f = none ∨
      ∃ key key' v, p.lookup f = some (key, v) ∧ q.lookup f = some (key', v) := by
  have value := h.value_eq f
  cases left : p.lookup f with
  | none =>
    rw [left] at value
    exact .inl ⟨rfl, Option.map_eq_none_iff.mp value.symm⟩
  | some entry =>
    rw [left] at value
    obtain ⟨⟨key, v⟩, right, rfl⟩ := Option.map_eq_some_iff.mp value.symm
    exact .inr ⟨entry.1, key, entry.2, rfl, right⟩

theorem Respells.misfit_congr (h : p.Respells q) (f : Field) : p.misfit? f = q.misfit? f := by
  rcases h.lookup_cases f with ⟨left, right⟩ | ⟨key, key', v, left, right⟩
  · rw [misfit?, misfit?, left, right]
  · rw [misfit?, misfit?, left, right, Option.bind_some, Option.bind_some]

theorem Respells.effective_eq (h : p.Respells q) (defaults : Options) (f : Field) :
    p.effective defaults f = q.effective defaults f := by
  rcases h.lookup_cases f with ⟨left, right⟩ | ⟨key, key', v, left, right⟩
  · simp only [effective, left, right]
  · simp only [effective, left, right]

/-- A key that is not involved counts for the other fields as before. -/
theorem lookup_of_elsewhere {touched : String → Prop} (same : ∀ key, ¬ touched key → q.get? key = p.get? key)
    (within : ∀ key, touched key → key ∈ f.spellings) {g : Field} (other : g ≠ f) :
    q.lookup g = p.lookup g := by
  apply lookup_congr
  intro key spelling
  exact same key fun hit => other (Field.spellings_disjoint spelling (within key hit))

theorem unknownKeys_of_elsewhere {touched : String → Prop}
    (same : ∀ key, ¬ touched key → q.get? key = p.get? key)
    (within : ∀ key, touched key → key ∈ f.spellings) : q.unknownKeys = p.unknownKeys := by
  apply TextMap.filter_keys_congr
  intro key unspelled
  have untouched : ¬ touched key := fun hit =>
    (Field.unspelled_iff key).mp (Option.isNone_iff_eq_none.mp unspelled) f (within key hit)
  rw [TextMap.mem_keys_iff, TextMap.mem_keys_iff, same key untouched]

theorem respells_rename {old new : String} (oldSpelling : old ∈ f.spellings)
    (newSpelling : new ∈ f.spellings) (present : old ∈ p.keys)
    (only : ∀ key ∈ f.spellings, key ∈ p.keys → key = old) : (p.rename old new).Respells p := by
  obtain ⟨v, found⟩ := (TextMap.mem_keys_iff p old).mp present
  have absent (key : String) (spelling : key ∈ f.spellings) (differs : key ≠ old) :
      p.get? key = none :=
    (TextMap.get?_eq_none_iff p key).mpr fun member => differs (only key spelling member)
  have untouched (key : String) (elsewhere : ¬ (key = new ∨ key = old)) :
      (p.rename old new).get? key = p.get? key := by
    rw [get?_rename found, if_neg fun equal => elsewhere (.inl equal),
      if_neg fun equal => elsewhere (.inr equal)]
  have within (key : String) (hit : key = new ∨ key = old) : key ∈ f.spellings := by
    rcases hit with rfl | rfl
    · exact newSpelling
    · exact oldSpelling
  refine ⟨fun g => ?_, unknownKeys_of_elsewhere untouched within⟩
  by_cases other : g = f
  · subst other
    have before : p.lookup g = some (old, v) := lookup_of_only oldSpelling found absent
    have after : (p.rename old new).lookup g = some (new, v) := by
      refine lookup_of_only newSpelling (by rw [get?_rename found, if_pos rfl]) ?_
      intro key spelling differs
      rw [get?_rename found, if_neg differs]
      split
      · rfl
      · next notOld => exact absent key spelling notOld
    rw [before, after]
    rfl
  · rw [lookup_of_elsewhere untouched within other]

theorem respells_of_shadowed {earlier later : String} (order : [earlier, later].Sublist f.spellings)
    (present : earlier ∈ p.keys) (same : ∀ key ≠ later, q.get? key = p.get? key) :
    q.Respells p := by
  have within (key : String) (hit : key = later) : key ∈ f.spellings :=
    hit ▸ order.subset (by simp)
  refine ⟨fun g => ?_, unknownKeys_of_elsewhere same within⟩
  by_cases other : g = f
  · subst other
    rw [lookup_of_shadowed order present same]
  · rw [lookup_of_elsewhere same within other]

end Payload

namespace Settings

variable {s : Settings} {p q : Payload} {defaults : Options}

theorem judge_eq_of_respells (s : Settings) (h : p.Respells q) (defaults : Options) :
    s.judge p defaults = s.judge q defaults := by
  have alike : s.Alike p q defaults defaults :=
    ⟨h.misfit_congr, fun f _ => h.effective_eq defaults f, by
      rw [unknownDefects, unknownDefects, h.unknownKeys_eq]⟩
  by_cases clean : s.audit defaults = []
  · exact alike.judge_eq_judge clean clean
  · rw [judge_eq, judge_eq, if_neg clean, if_neg clean]

/-- Where a violation names a spelling of a field, it names the field as the catalogue does. -/
theorem name_of_concerns {v : Violation} {key : String} {f : Field}
    (listed : v ∈ (s.defects p defaults).map Defect.violation) (concerned : v.concerns key = true)
    (spelling : key ∈ f.spellings) : key = f.name := by
  have named {g : Field} (same : g.name = key) : key = f.name := by
    rw [← same, Field.spellings_disjoint g.name_mem_spellings (same ▸ spelling)]
  obtain ⟨defect, found, rfl⟩ := List.mem_map.mp listed
  cases defect with
  | misfit g cause => exact named (by simpa [Violation.concerns, Defect.violation] using concerned)
  | lossesReversed minimum mean =>
    have pair : Field.minEnergyLoss.name = key ∨ Field.meanEnergyLoss.name = key := by
      simpa [Violation.concerns, Defect.violation] using concerned
    exact pair.elim named named
  | countsReversed recorded generated =>
    have pair : Field.numberOfRecordedParticles.name = key ∨
        Field.numberOfGeneratedParticles.name = key := by
      simpa [Violation.concerns, Defect.violation] using concerned
    exact pair.elim named named
  | unknown other =>
    have same : other = key := by simpa [Violation.concerns, Defect.violation] using concerned
    have unspelled := ((Payload.mem_unknownKeys_iff p other).mp (unknown_mem_defects_iff.mp found).2).2
    exact absurd (same ▸ spelling) (unspelled f)

theorem name_of_rejected {vs : Violations}
    (verdict : s.judge p defaults = .error (.rejected vs) ∨
      s.judge p defaults = .error (.unsoundDefaults vs))
    {v : Violation} (listed : v ∈ vs) {key : String} {f : Field} (concerned : v.concerns key = true)
    (spelling : key ∈ f.spellings) : key = f.name := by
  rcases verdict with rejected | unsound
  · obtain ⟨-, -, rfl⟩ := (judge_eq_rejected_iff s p defaults vs).mp rejected
    exact name_of_concerns listed concerned spelling
  · have found := ((judge_eq_unsoundDefaults_iff s p defaults vs).mp unsound).2
    rw [found, audit_eq] at listed
    exact name_of_concerns listed concerned spelling

/-- The only spelling of a field may be replaced by another one, and an entry under a spelling that
comes after one that is there may be added, changed or taken away: the verdict stays as it is, over
any defaults. No violation names a field by a former name. -/
theorem spelling_independent (s : Settings) (p : Payload) (defaults : Options) (f : Field) :
    (∀ old ∈ f.spellings, ∀ new ∈ f.spellings, old ∈ p.keys →
      (∀ key ∈ f.spellings, key ∈ p.keys → key = old) →
      s.judge (p.rename old new) defaults = s.judge p defaults) ∧
    (∀ earlier later, [earlier, later].Sublist f.spellings → earlier ∈ p.keys →
      (∀ v : Json, s.judge (p.insert later v) defaults = s.judge p defaults) ∧
      s.judge (p.erase later) defaults = s.judge p defaults) ∧
    (∀ vs, s.judge p defaults = .error (.rejected vs) ∨
        s.judge p defaults = .error (.unsoundDefaults vs) →
      ∀ v ∈ vs, ∀ key, v.concerns key = true → key ∈ f.spellings → key = f.name) := by
  refine ⟨?_, ?_, ?_⟩
  · intro old oldSpelling new newSpelling present only
    exact judge_eq_of_respells s
      (Payload.respells_rename oldSpelling newSpelling present only) defaults
  · intro earlier later order present
    have shadowed (q : Payload) (same : ∀ key ≠ later, q.get? key = p.get? key) :
        s.judge q defaults = s.judge p defaults :=
      judge_eq_of_respells s (Payload.respells_of_shadowed order present same) defaults
    constructor
    · intro v
      apply shadowed
      intro key differs
      rw [TextMap.get?_insert, if_neg differs]
    · apply shadowed
      intro key differs
      rw [TextMap.get?_erase, if_neg differs]
  · intro vs verdict v listed key concerned spelling
    exact name_of_rejected verdict listed concerned spelling

/-- One former name over a value of the wrong type, and another one behind it. -/
def formerName : Payload := TextMap.ofList [("nuclearCorectionOn", .string "yes")]

def formerNameRejection : Except OptionsFailure Options :=
  .error (.rejected [⟨"nuclearCorrectionOn", .typeMismatch, "expected a boolean, found string", none⟩])

theorem spelling_independent_formerName :
    strict.judge formerName .builtin = formerNameRejection ∧
      strict.judge (formerName.rename "nuclearCorectionOn" "nuclearReactionsOn") .builtin =
        formerNameRejection ∧
      strict.judge (formerName.insert "nuclearReactionsOn" .null) .builtin = formerNameRejection := by
  have rejected : strict.judge formerName .builtin = formerNameRejection := by rfl
  have present : "nuclearCorectionOn" ∈ formerName.keys := by decide +kernel
  have only : ∀ key ∈ Field.nuclearCorrectionOn.spellings, key ∈ formerName.keys →
      key = "nuclearCorectionOn" := by decide +kernel
  have second : "nuclearReactionsOn" ∈ Field.nuclearCorrectionOn.spellings := by decide +kernel
  have order : ["nuclearCorectionOn", "nuclearReactionsOn"].Sublist
      Field.nuclearCorrectionOn.spellings := by decide +kernel
  obtain ⟨renamed, shadowed, -⟩ :=
    spelling_independent strict formerName .builtin .nuclearCorrectionOn
  refine ⟨rejected, ?_, ?_⟩
  · exact (renamed _ (order.subset (.head _)) _ second present only).trans rejected
  · exact ((shadowed _ _ order present).1 .null).trans rejected

end Settings
end BeamRun
