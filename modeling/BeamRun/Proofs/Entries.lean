import BeamRun.Entries

namespace BeamRun

variable {α : Type}

/-- In a strict order the members of a list fix the list. -/
theorem eq_of_ordered_of_mem_iff {r : α → α → Prop} (asymmetric : ∀ a b, r a b → ¬ r b a)
    {xs ys : List α} (first : xs.Pairwise r) (second : ys.Pairwise r)
    (same : ∀ a, a ∈ xs ↔ a ∈ ys) : xs = ys := by
  have nodup {l : List α} (ordered : l.Pairwise r) : l.Nodup := by
    apply ordered.imp
    intro a b below equal
    subst equal
    exact asymmetric a a below below
  refine List.Perm.eq_of_pairwise ?_ first second ?_
  · intro a b _ _ below above
    exact absurd above (asymmetric a b below)
  · exact (List.perm_ext_iff_of_nodup (nodup first) (nodup second)).mpr same

namespace Entries

theorem get?_cons (key k : String) (v : α) (rest : List (String × α)) :
    get? ((k, v) :: rest) key = if key = k then some v else get? rest key := by
  rw [get?, List.lookup_cons]
  by_cases same : key = k
  · simp [same]
  · have differs : (key == k) = false := by simpa using same
    simp [differs, same, get?]

theorem get?_append (entries others : List (String × α)) (key : String) :
    get? (entries ++ others) key = (get? entries key).or (get? others key) :=
  List.lookup_append

theorem mem_of_get {entries : List (String × α)} {key : String} {value : α}
    (found : get? entries key = some value) : (key, value) ∈ entries := by
  induction entries with
  | nil => cases found
  | cons entry rest ih =>
    rcases entry with ⟨k, v⟩
    rw [get?_cons] at found
    split at found
    · next here =>
      cases found
      exact here ▸ List.mem_cons_self
    · exact List.mem_cons_of_mem _ (ih found)

theorem get?_of_mem {entries : List (String × α)} {key : String} {value : α}
    (distinct : (entries.map (·.1)).Nodup) (member : (key, value) ∈ entries) :
    get? entries key = some value := by
  induction entries with
  | nil => cases member
  | cons entry rest ih =>
    rcases entry with ⟨k, v⟩
    rw [List.map_cons, List.nodup_cons] at distinct
    rw [get?_cons]
    rcases List.mem_cons.mp member with here | later
    · cases here
      exact if_pos rfl
    · have other : key ≠ k := by
        intro same
        exact distinct.1 (List.mem_map.mpr ⟨(key, value), later, same⟩)
      rw [if_neg other, ih distinct.2 later]

theorem get?_reverse {entries : List (String × α)} (distinct : (entries.map (·.1)).Nodup)
    (key : String) : get? entries.reverse key = get? entries key := by
  have backwards : (entries.reverse.map (·.1)).Nodup := by
    rw [List.map_reverse]
    exact (List.reverse_perm _).symm.nodup distinct
  apply Option.ext
  intro value
  constructor
  · intro found
    exact get?_of_mem distinct (List.mem_reverse.mp (mem_of_get found))
  · intro found
    exact get?_of_mem backwards (List.mem_reverse.mpr (mem_of_get found))

theorem get?_filter (chosen : String → Bool) (entries : List (String × α)) (key : String) :
    get? (entries.filter fun entry => chosen entry.1) key =
      if chosen key then get? entries key else none := by
  induction entries with
  | nil => simp [get?]
  | cons entry rest ih =>
    rcases entry with ⟨k, v⟩
    by_cases here : key = k
    · subst here
      by_cases kept : chosen key <;> simp [get?_cons, kept, ih]
    · by_cases kept : chosen k <;> simp [get?_cons, kept, ih, here]

theorem get?_insert (key other : String) (value : α) (entries : List (String × α)) :
    get? (insert key value entries) other =
      if other = key then some value else get? entries other := by
  induction entries with
  | nil => simp [insert, get?_cons]
  | cons entry rest ih =>
    rcases entry with ⟨k, v⟩
    rw [insert]
    split
    · rw [get?_cons]
    · split
      · next same => by_cases here : other = key <;> simp [get?_cons, here, ← same]
      · next different =>
        rw [get?_cons, get?_cons, ih]
        by_cases here : other = key
        · subst here
          simp [different]
        · simp [here]

theorem get?_foldl_insert (pairs entries : List (String × α)) (key : String) :
    get? (pairs.foldl (fun entries p => insert p.1 p.2 entries) entries) key =
      (get? pairs.reverse key).or (get? entries key) := by
  induction pairs generalizing entries with
  | nil => rfl
  | cons pair pairs ih =>
    rw [List.foldl_cons, ih, get?_insert, List.reverse_cons, get?_append, get?_cons, Option.or_assoc]
    by_cases here : key = pair.1
    · simp [here]
    · simp [here, get?]

end Entries

namespace TextMap

theorem get?_ofList (pairs : List (String × α)) (key : String) :
    (ofList pairs).get? key = Entries.get? pairs.reverse key := by
  have folded := Entries.get?_foldl_insert pairs [] key
  rwa [show Entries.get? ([] : List (String × α)) key = none from rfl, Option.or_none] at folded

theorem mem_of_get_in_list {pairs : List (String × α)} {key : String} {value : α}
    (found : (ofList pairs).get? key = some value) : (key, value) ∈ pairs := by
  rw [get?_ofList] at found
  exact List.mem_reverse.mp (Entries.mem_of_get found)

theorem get_in_list_of_mem {pairs : List (String × α)} {key : String} {value : α}
    (distinct : (pairs.map (·.1)).Nodup) (member : (key, value) ∈ pairs) :
    (ofList pairs).get? key = some value := by
  rw [get?_ofList, Entries.get?_reverse distinct, Entries.get?_of_mem distinct member]

theorem keys_ascending (m : TextMap α) : m.keys.Pairwise (· < ·) :=
  List.pairwise_map.mpr m.ascending

theorem keys_nodup (m : TextMap α) : m.keys.Nodup :=
  m.keys_ascending.imp fun {a b} (below : a < b) (same : a = b) => String.lt_irrefl b (same ▸ below)

theorem mem_entries_iff (m : TextMap α) (key : String) (value : α) :
    (key, value) ∈ m.entries ↔ m.get? key = some value :=
  ⟨Entries.get?_of_mem m.keys_nodup, Entries.mem_of_get⟩

theorem mem_keys_iff (m : TextMap α) (key : String) :
    key ∈ m.keys ↔ ∃ value, m.get? key = some value := by
  simp [keys, ← mem_entries_iff]

theorem get?_eq_none_iff (m : TextMap α) (key : String) : m.get? key = none ↔ key ∉ m.keys := by
  rw [mem_keys_iff, Option.eq_none_iff_forall_ne_some, not_exists]

/-- A map made of entries under different keys holds these entries, in its own order. -/
theorem entries_ofList_perm {pairs : List (String × α)} (distinct : (pairs.map (·.1)).Nodup) :
    (ofList pairs).entries.Perm pairs := by
  have nodup {entries : List (String × α)} (keys : (entries.map (·.1)).Nodup) : entries.Nodup := by
    have apart : entries.Pairwise fun one other => one.1 ≠ other.1 := List.pairwise_map.mp keys
    exact apart.imp fun differ same => differ (congrArg (·.1) same)
  apply (List.perm_ext_iff_of_nodup (nodup (ofList pairs).keys_nodup) (nodup distinct)).mpr
  intro entry
  rcases entry with ⟨key, value⟩
  rw [mem_entries_iff]
  exact ⟨mem_of_get_in_list, get_in_list_of_mem distinct⟩

/-- Entries in any order make the list in which their keys ascend. -/
theorem entries_ofList_eq {pairs entries : List (String × α)} (perm : pairs.Perm entries)
    (ascending : (entries.map (·.1)).Pairwise (· < ·)) : Entries.ofList pairs = entries := by
  have ordered : Ascending entries := List.pairwise_map.mp ascending
  have distinct : (pairs.map (·.1)).Nodup := (perm.map _).nodup_iff.mpr (keys_nodup ⟨entries, ordered⟩)
  exact eq_of_ordered_of_mem_iff (fun _ _ below => String.lt_asymm below) (ofList pairs).ascending ordered
    fun _ => ((entries_ofList_perm distinct).trans perm).mem_iff

theorem ext_of_get {a b : TextMap α} (same : ∀ key, a.get? key = b.get? key) : a = b := by
  have entries : a.entries = b.entries := by
    apply eq_of_ordered_of_mem_iff (fun _ _ below => String.lt_asymm below) a.ascending b.ascending
    intro entry
    rcases entry with ⟨key, value⟩
    rw [mem_entries_iff, mem_entries_iff, same]
  cases a
  cases b
  cases entries
  rfl

theorem ofList_ofList (pairs : List (String × α)) : ofList (Entries.ofList pairs) = ofList pairs := by
  refine ext_of_get fun key => ?_
  rw [get?_ofList]
  exact Entries.get?_reverse (ofList pairs).keys_nodup key

/-- Two selections of keys are the same list as soon as they hold the same keys. -/
theorem filter_keys_congr {a b : TextMap α} {p : String → Bool}
    (same : ∀ key, p key = true → (key ∈ a.keys ↔ key ∈ b.keys)) :
    a.keys.filter p = b.keys.filter p := by
  apply eq_of_ordered_of_mem_iff (fun _ _ below => String.lt_asymm below)
    (a.keys_ascending.filter p) (b.keys_ascending.filter p)
  intro key
  simp only [List.mem_filter]
  constructor
  · intro h
    rcases h with ⟨member, chosen⟩
    exact ⟨(same key chosen).mp member, chosen⟩
  · intro h
    rcases h with ⟨member, chosen⟩
    exact ⟨(same key chosen).mpr member, chosen⟩

end TextMap
end BeamRun
