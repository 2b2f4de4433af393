import Mathlib.Logic.ExistsUnique
import BeamRun.Proofs.Payload
import BeamRun.Proofs.Text

/-! The parts that the keys of a payload play. Fields are looked up by their spellings, and the keys left
over are found by going through the keys; both ways together meet every key exactly once. -/

namespace BeamRun.Payload

/-- What a key may be in a payload. -/
inductive Part where
  /-- The spelling under which a field is found. -/
  | chosen (f : Field)
  /-- A spelling of a field that is found under an earlier one. -/
  | shadowed (f : Field)
  | unknown
  deriving DecidableEq, Repr

/-- The part of a key, as it is told by what is found for the fields and what is left over. -/
inductive Plays (p : Payload) (key : String) : Part → Prop
  | chosen {f : Field} {v : Json} (found : p.lookup f = some (key, v)) : Plays p key (.chosen f)
  | shadowed {f : Field} {first : String} {v : Json} (present : key ∈ p.keys)
      (found : p.lookup f = some (first, v)) (order : [first, key].Sublist f.spellings) :
      Plays p key (.shadowed f)
  | unknown (left : key ∈ p.unknownKeys) : Plays p key .unknown

def isChosen (p : Payload) (f : Field) (key : String) : Bool := (p.lookup f).any (·.1 = key)

/-- The part of a key, as it is told by the field that it spells. -/
def part (p : Payload) (key : String) : Part :=
  match Field.ofKey? key with
  | none => .unknown
  | some f => if p.isChosen f key then .chosen f else .shadowed f

def chosenKeys (p : Payload) : List String := Field.all.filterMap fun f => (p.lookup f).map (·.1)

def shadowedKeys (p : Payload) : List String :=
  Field.all.flatMap fun f => f.spellings.filter fun key => key ∈ p.keys && !p.isChosen f key

variable {p : Payload} {f : Field} {key : String}

theorem isChosen_iff : p.isChosen f key = true ↔ ∃ v, p.lookup f = some (key, v) := by
  rw [isChosen, Option.any_eq_true]
  constructor
  · rintro ⟨⟨other, v⟩, found, same⟩
    exact ⟨v, of_decide_eq_true same ▸ found⟩
  · rintro ⟨v, found⟩
    exact ⟨_, found, decide_eq_true rfl⟩

theorem mem_keys_of_lookup {v : Json} (found : p.lookup f = some (key, v)) : key ∈ p.keys :=
  (TextMap.mem_keys_iff p key).mpr ⟨v, get?_of_lookup found⟩

/-- A spelling behind the one under which its field is found is not that one. -/
theorem isChosen_of_behind {first : String} {v : Json} (found : p.lookup f = some (first, v))
    (order : [first, key].Sublist f.spellings) : p.isChosen f key = false := by
  apply Bool.eq_false_iff.mpr
  intro chosen
  obtain ⟨w, same⟩ := isChosen_iff.mp chosen
  cases found.symm.trans same
  have twice : [key, key].Nodup := f.spellings_nodup.sublist order
  simp at twice

/-- The other spellings of a field in a payload stand behind the one under which it is found. -/
theorem shadowed_of_spelling (present : key ∈ p.keys) (spelling : key ∈ f.spellings)
    (other : p.isChosen f key = false) : p.Plays key (.shadowed f) := by
  cases looked : p.lookup f with
  | none => exact absurd present (lookup_eq_none_iff_keys.mp looked key spelling)
  | some entry =>
    obtain ⟨first, v⟩ := entry
    obtain ⟨-, earlier, later, split, missing⟩ := (lookup_eq_some_iff p f first v).mp looked
    have notBefore : key ∉ earlier := fun before =>
      (TextMap.get?_eq_none_iff p key).mp (missing key before) present
    have notHere : key ≠ first := by
      rintro rfl
      exact Bool.eq_false_iff.mp other (isChosen_iff.mpr ⟨v, looked⟩)
    have behind : key ∈ later := by
      rw [split] at spelling
      exact List.mem_of_ne_of_mem notHere ((List.mem_append.mp spelling).resolve_left notBefore)
    refine .shadowed present looked ?_
    rw [split]
    exact ((List.singleton_sublist.mpr behind).cons_cons first).trans (List.sublist_append_right _ _)

theorem plays_iff (p : Payload) (key : String) (a : Part) :
    p.Plays key a ↔ key ∈ p.keys ∧ p.part key = a := by
  constructor
  · intro plays
    cases plays with
    | chosen found =>
      have spelled := (Field.spelled_iff _ _).mpr (mem_spellings_of_lookup found)
      refine ⟨mem_keys_of_lookup found, ?_⟩
      simp only [part, spelled, isChosen_iff.mpr ⟨_, found⟩, if_true]
    | shadowed present found order =>
      have spelled := (Field.spelled_iff key _).mpr (order.subset (by simp))
      refine ⟨present, ?_⟩
      simp only [part, spelled, isChosen_of_behind found order, Bool.false_eq_true, if_false]
    | unknown left =>
      obtain ⟨present, unspelled⟩ := (mem_unknownKeys_iff p key).mp left
      refine ⟨present, ?_⟩
      simp only [part, (Field.unspelled_iff key).mpr unspelled]
  · rintro ⟨present, rfl⟩
    rw [part]
    cases spelled : Field.ofKey? key with
    | none =>
      have unspelled := (Field.unspelled_iff key).mp spelled
      exact .unknown ((mem_unknownKeys_iff p key).mpr ⟨present, unspelled⟩)
    | some f =>
      by_cases chosen : p.isChosen f key = true
      · obtain ⟨v, found⟩ := isChosen_iff.mp chosen
        simp only [chosen, if_true]
        exact .chosen found
      · simp only [chosen]
        exact shadowed_of_spelling present ((Field.spelled_iff key f).mp spelled)
          (Bool.eq_false_iff.mpr chosen)

theorem mem_chosenKeys_iff (p : Payload) (key : String) :
    key ∈ p.chosenKeys ↔ ∃ f, p.Plays key (.chosen f) := by
  simp only [chosenKeys, List.mem_filterMap, Option.map_eq_some_iff]
  constructor
  · rintro ⟨f, -, entry, found, rfl⟩
    exact ⟨f, .chosen found⟩
  · rintro ⟨f, plays⟩
    cases plays with
    | chosen found => exact ⟨f, f.mem_all, _, found, rfl⟩

theorem mem_shadowedKeys_iff (p : Payload) (key : String) :
    key ∈ p.shadowedKeys ↔ ∃ f, p.Plays key (.shadowed f) := by
  simp only [shadowedKeys, List.mem_flatMap, List.mem_filter, Bool.and_eq_true, decide_eq_true_eq,
    Bool.not_eq_true']
  constructor
  · rintro ⟨f, -, spelling, present, other⟩
    exact ⟨f, shadowed_of_spelling present spelling other⟩
  · rintro ⟨f, plays⟩
    cases plays with
    | shadowed present found order =>
      exact ⟨f, f.mem_all, order.subset (by simp), present, isChosen_of_behind found order⟩

theorem chosenKeys_nodup (p : Payload) : p.chosenKeys.Nodup := by
  refine List.Pairwise.filterMap _ ?_ Field.all_nodup
  intro f g differ key first other second same
  obtain ⟨entry, found, rfl⟩ := Option.map_eq_some_iff.mp first
  obtain ⟨entry', found', rfl⟩ := Option.map_eq_some_iff.mp second
  have spelling := mem_spellings_of_lookup found'
  rw [← same] at spelling
  exact differ (Field.spellings_disjoint (mem_spellings_of_lookup found) spelling)

theorem shadowedKeys_nodup (p : Payload) : p.shadowedKeys.Nodup := by
  refine List.pairwise_flatMap.mpr ⟨?_, ?_⟩
  · intro f _
    exact f.spellings_nodup.sublist List.filter_sublist
  · refine Field.all_nodup.imp ?_
    intro f g differ key first other second same
    subst same
    exact differ (Field.spellings_disjoint (List.mem_filter.mp first).1 (List.mem_filter.mp second).1)

/-- The walk over the fields and the walk over the keys meet every key, and none twice. -/
theorem parts_perm_keys (p : Payload) :
    (p.chosenKeys ++ p.shadowedKeys ++ p.unknownKeys).Perm p.keys := by
  have unique {key : String} {a b : Part} (first : p.Plays key a) (second : p.Plays key b) : a = b :=
    ((plays_iff p key a).mp first).2.symm.trans ((plays_iff p key b).mp second).2
  have unknownNodup : p.unknownKeys.Nodup := p.keys_nodup.sublist List.filter_sublist
  have nodup : (p.chosenKeys ++ p.shadowedKeys ++ p.unknownKeys).Nodup := by
    rw [List.append_assoc]
    refine List.nodup_append.mpr ⟨p.chosenKeys_nodup, List.nodup_append.mpr
      ⟨p.shadowedKeys_nodup, unknownNodup, ?_⟩, ?_⟩
    · rintro key shadowed _ left rfl
      obtain ⟨f, plays⟩ := (p.mem_shadowedKeys_iff key).mp shadowed
      cases unique plays (.unknown left)
    · rintro key chosen _ other rfl
      obtain ⟨f, plays⟩ := (p.mem_chosenKeys_iff key).mp chosen
      rcases List.mem_append.mp other with shadowed | left
      · obtain ⟨g, others⟩ := (p.mem_shadowedKeys_iff key).mp shadowed
        cases unique plays others
      · cases unique plays (.unknown left)
  apply (List.perm_ext_iff_of_nodup nodup p.keys_nodup).mpr
  intro key
  rw [List.mem_append, List.mem_append, mem_chosenKeys_iff, mem_shadowedKeys_iff]
  constructor
  · rintro ((⟨f, plays⟩ | ⟨f, plays⟩) | left)
    · exact ((plays_iff p key _).mp plays).1
    · exact ((plays_iff p key _).mp plays).1
    · exact ((mem_unknownKeys_iff p key).mp left).1
  · intro present
    have plays := (plays_iff p key _).mpr ⟨present, rfl⟩
    cases role : p.part key with
    | chosen f => exact .inl (.inl ⟨f, role ▸ plays⟩)
    | shadowed f => exact .inl (.inr ⟨f, role ▸ plays⟩)
    | unknown =>
      rw [role] at plays
      cases plays with
      | unknown left => exact .inr left

/-- Every key of a payload plays one part: a field is found under it, or an earlier spelling of its field
shadows it, or it is unknown. The three kinds of keys make up the payload, in its size too. A field is not
found if no key of the payload is understood as it; otherwise it is found under such a key, with the value
there. Unknown keys ascend in the order of their bytes. -/
theorem every_key_accounted (p : Payload) :
    (∀ key ∈ p.keys, ∃! a, p.Plays key a) ∧
    (∀ key, key ∈ p.chosenKeys ↔ ∃ f, p.Plays key (.chosen f)) ∧
    (∀ key, key ∈ p.shadowedKeys ↔ ∃ f, p.Plays key (.shadowed f)) ∧
    (p.chosenKeys ++ p.shadowedKeys ++ p.unknownKeys).Perm p.keys ∧
    p.size = p.chosenKeys.length + p.shadowedKeys.length + p.unknownKeys.length ∧
    (∀ f, p.lookup f = none ↔ ∀ key ∈ p.keys, Field.ofKey? key ≠ some f) ∧
    (∀ f key v, p.lookup f = some (key, v) → Field.ofKey? key = some f ∧ p.get? key = some v) ∧
    (p.unknownKeys.map Text.bytes).Pairwise (· < ·) := by
  refine ⟨?_, p.mem_chosenKeys_iff, p.mem_shadowedKeys_iff, p.parts_perm_keys, ?_, ?_, ?_, ?_⟩
  · intro key present
    refine ⟨p.part key, (plays_iff p key _).mpr ⟨present, rfl⟩, ?_⟩
    intro other plays
    exact ((plays_iff p key other).mp plays).2.symm
  · have counted := p.parts_perm_keys.length_eq
    rw [List.length_append, List.length_append, TextMap.keys, List.length_map] at counted
    exact counted.symm
  · intro f
    simp only [lookup_eq_none_iff_keys, ne_eq, Field.spelled_iff]
    exact ⟨fun missing key present spelling => missing key spelling present,
      fun missing key spelling present => missing key present spelling⟩
  · intro f key v found
    exact ⟨(Field.spelled_iff key f).mpr (mem_spellings_of_lookup found), get?_of_lookup found⟩
  · exact List.pairwise_map.mpr ((p.keys_ascending.filter _).imp Text.bytes_lt_of_lt)

/-- Two former names of one field, and two keys that spell none. -/
def twoFormerNames : Payload :=
  TextMap.ofList
    [("élan", .null), ("nuclearReactionsOn", .null), ("nuclearCorectionOn", .bool true), ("zeta", .null)]

theorem every_key_accounted_twoFormerNames :
    "nuclearReactionsOn" ∈ twoFormerNames.keys ∧ (∃! a, twoFormerNames.Plays "nuclearReactionsOn" a) ∧
      twoFormerNames.lookup .nuclearCorrectionOn = some ("nuclearCorectionOn", .bool true) ∧
      Field.ofKey? "nuclearCorectionOn" = some .nuclearCorrectionOn ∧
      twoFormerNames.get? "nuclearCorectionOn" = some (.bool true) ∧
      twoFormerNames.chosenKeys = ["nuclearCorectionOn"] ∧
      twoFormerNames.shadowedKeys = ["nuclearReactionsOn"] ∧
      twoFormerNames.unknownKeys = ["zeta", "élan"] := by
  have present : "nuclearReactionsOn" ∈ twoFormerNames.keys := by decide +kernel
  have found : twoFormerNames.lookup .nuclearCorrectionOn = some ("nuclearCorectionOn", .bool true) := by
    rfl
  obtain ⟨parts, -, -, -, -, -, sound, -⟩ := every_key_accounted twoFormerNames
  obtain ⟨understood, there⟩ := sound _ _ _ found
  exact ⟨present, parts _ present, found, understood, there, by decide +kernel, by decide +kernel,
    by decide +kernel⟩

end BeamRun.Payload
