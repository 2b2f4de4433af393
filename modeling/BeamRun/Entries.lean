namespace BeamRun

variable {α : Type}

/-- Every key once, in ascending order of code points. -/
def Ascending (entries : List (String × α)) : Prop :=
  entries.Pairwise fun a b => a.1 < b.1

namespace Entries

/-- Puts `value` under `key`, in place of what stood there. -/
def insert (key : String) (value : α) : List (String × α) → List (String × α)
  | [] => [(key, value)]
  | (k, v) :: rest =>
    if key < k then (key, value) :: (k, v) :: rest
    else if key = k then (key, value) :: rest
    else (k, v) :: insert key value rest

def ofList (pairs : List (String × α)) : List (String × α) :=
  pairs.foldl (fun entries p => insert p.1 p.2 entries) []

def get? (entries : List (String × α)) (key : String) : Option α := entries.lookup key

theorem mem_insert {key : String} {value : α} {p : String × α} :
    ∀ {entries : List (String × α)}, p ∈ insert key value entries → p = (key, value) ∨ p ∈ entries
  | [], h => by simpa [insert] using h
  | (k, v) :: rest, h => by
    rw [insert] at h
    split at h
    · simpa using h
    · split at h
      · rcases List.mem_cons.1 h with h | h
        · exact .inl h
        · exact .inr (List.mem_cons_of_mem _ h)
      · rcases List.mem_cons.1 h with h | h
        · exact .inr (h ▸ List.mem_cons_self)
        · rcases mem_insert h with h | h
          · exact .inl h
          · exact .inr (List.mem_cons_of_mem _ h)

theorem insert_ascending {key : String} {value : α} :
    ∀ {entries : List (String × α)}, Ascending entries → Ascending (insert key value entries)
  | [], _ => List.pairwise_singleton _ _
  | (k, v) :: rest, h => by
    have head := (List.pairwise_cons.1 h).1
    have tail := (List.pairwise_cons.1 h).2
    rw [insert]
    split
    · next below =>
      refine List.pairwise_cons.2 ⟨fun p hp => ?_, h⟩
      rcases List.mem_cons.1 hp with rfl | hp
      · exact below
      · exact String.lt_trans below (head p hp)
    · next notBelow =>
      split
      · next same =>
        exact List.pairwise_cons.2 ⟨fun p hp => same ▸ head p hp, tail⟩
      · next other =>
        refine List.pairwise_cons.2 ⟨fun p hp => ?_, insert_ascending tail⟩
        rcases mem_insert hp with rfl | hp
        · exact Classical.byContradiction fun notAbove =>
            other (String.le_antisymm (String.not_lt.1 notAbove) (String.not_lt.1 notBelow))
        · exact head p hp

theorem ofList_ascending (pairs : List (String × α)) : Ascending (ofList pairs) := by
  suffices ∀ entries : List (String × α), Ascending entries →
      Ascending (pairs.foldl (fun entries p => insert p.1 p.2 entries) entries) from
    this [] List.Pairwise.nil
  induction pairs with
  | nil => exact fun _ h => h
  | cons p pairs ih => exact fun entries h => ih _ (insert_ascending h)

end Entries

structure TextMap (α : Type) where
  entries : List (String × α)
  ascending : Ascending entries

namespace TextMap

def empty : TextMap α := ⟨[], List.Pairwise.nil⟩

def insert (m : TextMap α) (key : String) (value : α) : TextMap α :=
  ⟨Entries.insert key value m.entries, Entries.insert_ascending m.ascending⟩

def ofList (pairs : List (String × α)) : TextMap α :=
  ⟨Entries.ofList pairs, Entries.ofList_ascending pairs⟩

def get? (m : TextMap α) (key : String) : Option α := Entries.get? m.entries key

def keys (m : TextMap α) : List String := m.entries.map (·.1)

def size (m : TextMap α) : Nat := m.entries.length

def isEmpty (m : TextMap α) : Bool := m.entries.isEmpty

end TextMap
end BeamRun
