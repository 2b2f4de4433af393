import BeamRun.Field

/-! The catalogue holds every field, no spelling belongs to two of them, and literals are told apart. -/

namespace BeamRun

/-- A search through a complete list finds the one element that passes, wherever it stands. -/
theorem find?_eq_some_iff_of_unique {α : Type} {all : List α} {p : α → Bool}
    (complete : ∀ a, a ∈ all) (unique : ∀ a b, p a = true → p b = true → a = b) (a : α) :
    all.find? p = some a ↔ p a = true := by
  constructor
  · exact List.find?_some
  · intro passes
    cases found : all.find? p with
    | none => exact absurd passes (List.find?_eq_none.mp found a (complete a))
    | some b => rw [unique b a (List.find?_some found) passes]

namespace Scattering

theorem of_name_iff (literal : String) (s : Scattering) :
    ofName? literal = some s ↔ s.name = literal := by
  have unique : ∀ a b : Scattering, a.name = b.name → a = b := by
    intro a b
    cases a <;> cases b <;> decide
  rw [ofName?, find?_eq_some_iff_of_unique (by intro a; cases a <;> decide), beq_iff_eq]
  intro a b first second
  exact unique a b ((beq_iff_eq.mp first).trans (beq_iff_eq.mp second).symm)

end Scattering

namespace Straggling

theorem of_name_iff (literal : String) (s : Straggling) :
    ofName? literal = some s ↔ s.name = literal := by
  have unique : ∀ a b : Straggling, a.name = b.name → a = b := by
    intro a b
    cases a <;> cases b <;> decide
  rw [ofName?, find?_eq_some_iff_of_unique (by intro a; cases a <;> decide), beq_iff_eq]
  intro a b first second
  exact unique a b ((beq_iff_eq.mp first).trans (beq_iff_eq.mp second).symm)

end Straggling

namespace Field

theorem mem_all (f : Field) : f ∈ all := by
  cases f <;> decide

theorem all_nodup : all.Nodup := by decide

theorem name_mem_spellings (f : Field) : f.name ∈ f.spellings := List.mem_cons_self

theorem spellings_nodup (f : Field) : f.spellings.Nodup := by
  cases f <;> decide +kernel

private theorem spellings_disjoint_of_mem :
    ∀ f ∈ all, ∀ g ∈ all, ∀ key ∈ f.spellings, key ∈ g.spellings → f = g := by
  decide +kernel

theorem spellings_disjoint {f g : Field} {key : String}
    (first : key ∈ f.spellings) (second : key ∈ g.spellings) : f = g :=
  spellings_disjoint_of_mem f f.mem_all g g.mem_all key first second

theorem name_injective {f g : Field} (same : f.name = g.name) : f = g :=
  spellings_disjoint f.name_mem_spellings (same ▸ g.name_mem_spellings)

theorem names_nodup : (all.map name).Nodup :=
  List.pairwise_map.mpr (all_nodup.imp fun differ same => differ (name_injective same))

theorem spelled_iff (key : String) (f : Field) :
    ofKey? key = some f ↔ key ∈ f.spellings := by
  rw [ofKey?, find?_eq_some_iff_of_unique mem_all, List.contains_iff_mem]
  intro a b first second
  exact spellings_disjoint (List.contains_iff_mem.mp first) (List.contains_iff_mem.mp second)

theorem unspelled_iff (key : String) :
    ofKey? key = none ↔ ∀ f : Field, key ∉ f.spellings := by
  simp only [Option.eq_none_iff_forall_not_mem, Option.mem_def, spelled_iff]

end Field
end BeamRun
