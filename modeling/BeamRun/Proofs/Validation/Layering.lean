import BeamRun.Program
import BeamRun.Proofs.Payload
import BeamRun.Proofs.Validation.Agreement

namespace BeamRun.Payload

/-- A payload hides the keys it holds itself, and every spelling of a field it spells. -/
def Hides (q : Payload) (key : String) : Prop :=
  key ∈ q.keys ∨ ∃ f ∈ Field.all, key ∈ f.spellings ∧ ∃ other ∈ f.spellings, other ∈ q.keys

instance (q : Payload) (key : String) : Decidable (q.Hides key) :=
  inferInstanceAs (Decidable (_ ∨ ∃ f ∈ Field.all, _))

/-- All entries of the later payload, and those of the earlier one that it does not hide. -/
def overlay (p q : Payload) : Payload :=
  TextMap.ofList ((p.entries.filter fun entry => ¬ q.Hides entry.1) ++ q.entries)

variable {p q : Payload} {f : Field} {key : String}

/-- Among the spellings of one field, all are hidden or none is. -/
theorem hides_iff (spelling : key ∈ f.spellings) : q.Hides key ↔ q.lookup f ≠ none := by
  rw [ne_eq, lookup_eq_none_iff]
  constructor
  · intro hidden missing
    rcases hidden with member | ⟨g, -, same, other, otherSpelling, member⟩
    · exact (TextMap.get?_eq_none_iff q key).mp (missing key spelling) member
    · rw [Field.spellings_disjoint same spelling] at otherSpelling
      exact (TextMap.get?_eq_none_iff q other).mp (missing other otherSpelling) member
  · intro found
    refine .inr ⟨f, f.mem_all, spelling, Decidable.byContradiction fun none => found ?_⟩
    intro other otherSpelling
    apply (TextMap.get?_eq_none_iff q other).mpr
    intro member
    exact none ⟨other, otherSpelling, member⟩

theorem get?_overlay (p q : Payload) (key : String) :
    (p.overlay q).get? key = (q.get? key).or (if q.Hides key then none else p.get? key) := by
  have later : Entries.get? q.entries.reverse key = q.get? key :=
    Entries.get?_reverse q.keys_nodup key
  have earlier : Entries.get? (p.entries.filter fun entry => ¬ q.Hides entry.1).reverse key =
      if q.Hides key then none else p.get? key := by
    have distinct : ((p.entries.filter fun entry => ¬ q.Hides entry.1).map (·.1)).Nodup :=
      p.keys_nodup.sublist (List.filter_sublist.map _)
    rw [Entries.get?_reverse distinct, Entries.get?_filter fun key => ¬ q.Hides key]
    by_cases hidden : q.Hides key <;> simp [hidden, TextMap.get?]
  calc
    (p.overlay q).get? key
    _ = Entries.get? (q.entries.reverse ++
          (p.entries.filter fun entry => ¬ q.Hides entry.1).reverse) key := by
      rw [overlay, TextMap.get?_ofList, List.reverse_append]
    _ = (q.get? key).or (if q.Hides key then none else p.get? key) := by
      rw [Entries.get?_append, later, earlier]

theorem lookup_overlay (p q : Payload) (f : Field) :
    (p.overlay q).lookup f = (q.lookup f).or (p.lookup f) := by
  cases found : q.lookup f with
  | some entry =>
    rw [Option.some_or, ← found]
    apply lookup_congr
    intro key spelling
    have hidden : q.Hides key := (hides_iff spelling).mpr (by simp [found])
    rw [get?_overlay, if_pos hidden, Option.or_none]
  | none =>
    rw [Option.none_or]
    apply lookup_congr
    intro key spelling
    have shown : ¬ q.Hides key := fun hidden => (hides_iff spelling).mp hidden found
    rw [get?_overlay, if_neg shown, (lookup_eq_none_iff q f).mp found key spelling, Option.none_or]

theorem unknownKeys_overlay (known : p.unknownKeys = []) :
    (p.overlay q).unknownKeys = q.unknownKeys := by
  apply TextMap.filter_keys_congr
  intro key unspelled
  have absent : p.get? key = none := by
    apply (TextMap.get?_eq_none_iff p key).mpr
    intro member
    obtain ⟨f, spelling⟩ := (unknownKeys_eq_nil_iff p).mp known key member
    exact (Field.unspelled_iff key).mp (Option.isNone_iff_eq_none.mp unspelled) f spelling
  simp [TextMap.mem_keys_iff, get?_overlay, absent]

end BeamRun.Payload

/-! One payload over what another was merged into is both of them, one upon the other, over the
defaults of the first. -/

namespace BeamRun

namespace Payload

variable {p q : Payload} {f : Field}

theorem misfit_overlay (fits : p.misfit? f = none) :
    (p.overlay q).misfit? f = q.misfit? f := by
  rw [misfit?, misfit?, lookup_overlay]
  cases found : q.lookup f with
  | some entry => rfl
  | none => exact fits

theorem effective_overlay {defaults : Options} (fits : q.misfit? f = none) :
    (p.overlay q).effective defaults f = q.effective (p.merged defaults) f := by
  cases found : q.lookup f with
  | none => simp [effective, lookup_overlay, found, get_merged]
  | some entry =>
    rcases entry with ⟨key, v⟩
    cases read : f.read v with
    | ok x => simp [effective, lookup_overlay, found, read]
    | error cause => simp [misfit?, found, read] at fits

end Payload

theorem Checked.ofVerdict_result_congr {p q : Payload} {context : Report.Context}
    {stamp : Report.Stamp} {v w : Logged (Except OptionsFailure Options)}
    (same : v.result = w.result) :
    (ofVerdict p context stamp v).run.result = (ofVerdict q context stamp w).run.result := by
  rcases v with ⟨_, verdict⟩
  rcases w with ⟨_, _⟩
  cases same
  cases verdict with
  | ok m => rfl
  | error failure => cases failure <;> rfl

namespace Settings

variable {s : Settings} {p : Payload} {defaults m : Options}

/-- The default under a field that the later payload spells is read in neither run. -/
theorem alike_overlay (accepted : s.judge p defaults = .ok m) (q : Payload) :
    s.Alike q (p.overlay q) m defaults := by
  obtain ⟨-, none, rfl⟩ := (judge_eq_ok_iff s p defaults m).mp accepted
  obtain ⟨comesTo, -, -, -, known⟩ := defects_eq_nil_iff.mp ⟨none, rfl⟩
  refine ⟨fun f => ?_, fun f fits => (Payload.effective_overlay fits).symm, ?_⟩
  · exact (Payload.misfit_overlay (Payload.comesTo_iff.mp (comesTo f)).1).symm
  · cases policy : s.unknownKeys with
    | ignore => simp [unknownDefects, policy]
    | reject => simp [unknownDefects, policy, Payload.unknownKeys_overlay (known policy)]

theorem judge_overlay (accepted : s.judge p defaults = .ok m) (q : Payload) :
    s.judge q m = s.judge (p.overlay q) defaults := by
  refine (alike_overlay accepted q).judge_eq_judge ?_ ?_
  · exact (audit_eq_nil_iff m).mpr (sound_of_judge accepted)
  · exact ((judge_eq_ok_iff s p defaults m).mp accepted).1

theorem check_result_congr {q q' : Payload} {o o' : Options} (same : s.judge q o = s.judge q' o')
    (context : Report.Context) (stamp : Report.Stamp) :
    (s.check q o context stamp).run.result = (s.check q' o' context stamp).run.result := by
  rw [judge, judge] at same
  exact Checked.ofVerdict_result_congr same

theorem loadDefaults_result {files : Files} {path : String}
    (loaded : (Payload.load files path).result = .ok p) (accepted : s.judge p .builtin = .ok m) :
    (s.loadDefaults files (some path)).run.result = .ok m := by
  rw [loadDefaults, Attempt.result_bind_of_ok (Attempt.result_ofOptions_of_ok loaded)]
  rw [judge] at accepted
  exact Attempt.result_ofLogged_of_ok accepted

/-- A payload over what an earlier one was merged into gets the verdict of the two as one payload, the
later upon the earlier, over the defaults of the earlier. With a defaults file the program answers to
a payload as it does to both as one payload over the built-in defaults. -/
theorem layering_exact (s : Settings) :
    (∀ (p : Payload) (defaults m : Options), s.judge p defaults = .ok m →
      ∀ q : Payload, s.judge q m = s.judge (p.overlay q) defaults) ∧
    (∀ (w : World) (input : Input) (path : String) (p q : Payload) (m : Options),
      (Settings.load w.files w.environment input.settings).result = .ok s →
      input.defaults = some path → (Payload.load w.files path).result = .ok p →
      s.judge p .builtin = .ok m → (w.payload input.file).run.result = .ok q →
      (w.prepare input).run.result =
        (s.check (p.overlay q) .builtin (World.context input) w.stamp).run.result) := by
  refine ⟨fun p defaults m => judge_overlay, ?_⟩
  intro w input path p q m settings file loaded accepted payload
  have chosen := Attempt.result_ofOptions_of_ok settings
  have defaults : (s.loadDefaults w.files input.defaults).run.result = .ok m := by
    rw [file, loadDefaults_result loaded accepted]
  rw [World.prepare, Attempt.result_bind_of_ok chosen, Attempt.result_bind_of_ok defaults,
    Attempt.result_bind_of_ok payload]
  exact check_result_congr (judge_overlay accepted q) (World.context input) w.stamp

/-- Counts that fit together only if the defaults file is heeded. -/
def countsInTwoFiles : World where
  files := .ofList
    [("defaults.json", .regular (.ok "\x7b\"numberOfGeneratedParticles\": 20000\x7d".toUTF8)),
      ("payload.json", .regular (.ok "\x7b\"numberOfRecordedParticles\": 15000\x7d".toUTF8))]
  stdin := .empty
  environment := []
  colored := false
  stamp := ⟨⟨0⟩, ⟨0, 0⟩⟩

def countsInTwoFiles.input : Input := ⟨"payload.json", some "defaults.json", none, none, none⟩

private theorem eq_ok_of_toOption {ε α : Type} {x : Except ε α} {a : α}
    (h : x.toOption = some a) : x = .ok a := by
  cases x with
  | error e => cases h
  | ok b =>
    cases h
    rfl

theorem layering_exact_countsInTwoFiles :
    ∃ p q m, (Payload.load countsInTwoFiles.files "defaults.json").result = .ok p ∧
      (countsInTwoFiles.payload "payload.json").run.result = .ok q ∧
      lenient.judge p .builtin = .ok m ∧ m.numberOfGeneratedParticles = 20000 ∧
      lenient.judge q m = lenient.judge (p.overlay q) .builtin ∧
      (countsInTwoFiles.prepare countsInTwoFiles.input).run.result =
        (lenient.check (p.overlay q) .builtin (World.context countsInTwoFiles.input)
          countsInTwoFiles.stamp).run.result := by
  have settings : (Settings.load countsInTwoFiles.files [] none).result = .ok lenient := by rfl
  have defaults : ((Payload.load countsInTwoFiles.files "defaults.json").result.toOption.bind
      fun p => (lenient.judge p .builtin).toOption).any (·.numberOfGeneratedParticles = 20000) := by
    decide +kernel
  have payload : (countsInTwoFiles.payload "payload.json").run.result.toOption.isSome := by
    decide +kernel
  obtain ⟨m, merged, generated⟩ := (Option.any_eq_true _ _).mp defaults
  obtain ⟨p, loaded, accepted⟩ := Option.bind_eq_some_iff.mp merged
  obtain ⟨q, read⟩ := Option.isSome_iff_exists.mp payload
  have loaded := eq_ok_of_toOption loaded
  have accepted := eq_ok_of_toOption accepted
  have read := eq_ok_of_toOption read
  obtain ⟨verdicts, runs⟩ := layering_exact lenient
  exact ⟨p, q, m, loaded, read, accepted, of_decide_eq_true generated,
    verdicts p .builtin m accepted q,
    runs _ countsInTwoFiles.input "defaults.json" p q m settings rfl loaded accepted read⟩

end Settings
end BeamRun
