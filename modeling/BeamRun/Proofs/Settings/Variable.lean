import BeamRun.Proofs.Settings.Layer
import BeamRun.Proofs.Text
import BeamRun.Settings.Variable

namespace BeamRun

theorem Text.mem_of_mem_trim {c : Char} {cs : List Char} (member : c ∈ Text.trim cs) : c ∈ cs := by
  have inner := (List.dropWhile_sublist _).subset (List.mem_reverse.mp member)
  exact (List.dropWhile_sublist _).subset (List.mem_reverse.mp inner)

theorem eq_point_of_toLower {c : Char} (lower : c.toLower = '.') : c = '.' := by
  unfold Char.toLower at lower
  split at lower
  · next range =>
    have value := congrArg UInt32.toNat (congrArg Char.val lower)
    have least := UInt32.le_iff_toNat_le.mp range.1
    have greatest := UInt32.le_iff_toNat_le.mp range.2
    simp at value least greatest
    omega
  · exact lower

namespace Settings

namespace Variable

/-- The lead may be in any case, and blanks around a name do not count. -/
def hasLead (name : String) : Bool :=
  ((Text.trim name.toList).take variablePrefix.toList.length).map Char.toUpper =
    variablePrefix.toList

/-- What a name has behind its lead, in lower case and between blanks. -/
def behindLead (name : String) : List Char :=
  (Text.trim ((Text.trim name.toList).drop variablePrefix.toList.length)).map Char.toLower

def isFor (key name : String) : Bool := hasLead name && behindLead name = key.toList

example : isFor "unknown_keys" "Transport_Options_UNKNOWN_keys" = true := by decide +kernel

/-- The texts of the variables for a key. -/
def texts (environment : List (String × String)) (key : String) : List String :=
  (environment.filter fun v => isFor key v.1).map (·.2)

theorem path_eq (name : String) :
    path? name =
      if hasLead name then
        if (Text.split '.' (behindLead name)).any (·.isEmpty) then none
        else some ((Text.split '.' (behindLead name)).map String.ofList)
      else none := by
  simp only [hasLead, decide_eq_true_eq]
  rfl

theorem point_not_mem_behindLead {name : String} (undotted : '.' ∉ name.toList) :
    '.' ∉ behindLead name := by
  intro member
  obtain ⟨c, inside, lower⟩ := List.mem_map.mp member
  rw [eq_point_of_toLower lower] at inside
  exact undotted (Text.mem_of_mem_trim (List.mem_of_mem_drop (Text.mem_of_mem_trim inside)))

/-- A name without points leads to one key, or to none. -/
theorem path_of_undotted {name : String} (undotted : '.' ∉ name.toList) :
    (∃ k, path? name = some [k] ∧ ∀ key, isFor key name = true ↔ key = k) ∨
      path? name = none ∧ ∀ key, key ≠ "" → isFor key name = false := by
  rw [path_eq, Text.split_of_not_mem (point_not_mem_behindLead undotted)]
  cases lead : hasLead name with
  | false => simp [isFor, lead]
  | true =>
    by_cases empty : behindLead name = []
    · right
      refine ⟨by simp [empty], fun key nonempty => ?_⟩
      have other : [] ≠ key.toList := fun same => nonempty (String.toList_inj.mp same.symm)
      simp [isFor, empty, other]
    · left
      refine ⟨String.ofList (behindLead name), by simp [empty], fun key => ?_⟩
      simp only [isFor, lead, Bool.true_and, decide_eq_true_eq]
      rw [← String.toList_inj, String.toList_ofList, eq_comm]

def put (base : Layer) (v : String × String) : Layer :=
  match path? v.1 with
  | some (k :: ks) => Setting.joinEntries base [(k, Setting.nested .environment ks (ofText v.2))]
  | _ => base

theorem layer_eq (environment : List (String × String)) : layer environment = environment.foldl put [] :=
  rfl

theorem put_ascending {base : Layer} (ascending : Ascending base) (v : String × String) :
    Ascending (put base v) := by
  rw [put]
  split
  · exact Setting.joinEntries_ascending ascending _
  · exact ascending

theorem layer_ascending (environment : List (String × String)) : Ascending (layer environment) := by
  rw [layer_eq]
  suffices ∀ base : Layer, Ascending base → Ascending (environment.foldl put base) from
    this [] List.Pairwise.nil
  induction environment with
  | nil => exact fun _ ascending => ascending
  | cons v environment ih => exact fun base ascending => ih _ (put_ascending ascending v)

theorem get?_put {v : String × String} (undotted : '.' ∉ v.1.toList) (base : Layer) {key : String}
    (nonempty : key ≠ "") :
    Entries.get? (put base v) key =
      if isFor key v.1 then some (Setting.joined (Entries.get? base key) (ofText v.2))
      else Entries.get? base key := by
  obtain ⟨k, path, one⟩ | ⟨path, others⟩ := path_of_undotted undotted
  · have distinct : ([(k, ofText v.2)].map (·.1)).Nodup := List.pairwise_singleton _ _
    simp only [put, path, Setting.nested, List.foldr_nil, Setting.get_in_joined_layers distinct,
      Entries.get?_cons, one]
    by_cases here : key = k
    · simp [here]
    · simp [here, Entries.get?]
  · simp only [put, path, others key nonempty, Bool.false_eq_true, if_false]

/-- Under a key a layer of variables holds the values of the variables for it, each over the one before. -/
theorem get_in_variable_layer {environment : List (String × String)}
    (undotted : ∀ v ∈ environment, '.' ∉ v.1.toList) {key : String} (nonempty : key ≠ "") :
    Entries.get? (layer environment) key =
      (texts environment key).foldl (fun earlier text => some (Setting.joined earlier (ofText text)))
        none := by
  rw [layer_eq]
  suffices ∀ base : Layer, Entries.get? (environment.foldl put base) key =
      (texts environment key).foldl (fun earlier text => some (Setting.joined earlier (ofText text)))
        (Entries.get? base key) from this []
  induction environment with
  | nil => exact fun base => rfl
  | cons v environment ih =>
    intro base
    have later := ih fun w member => undotted w (List.mem_cons_of_mem v member)
    rw [List.foldl_cons, later, get?_put (undotted v List.mem_cons_self) base nonempty]
    by_cases here : isFor key v.1 = true
    · simp [texts, here]
    · simp [texts, here]

/-- The last variable for a key tells the text, if its value is one. -/
theorem word_in_variable_layer {environment : List (String × String)}
    (undotted : ∀ v ∈ environment, '.' ∉ v.1.toList) {key : String} (nonempty : key ≠ "") :
    (Entries.get? (layer environment) key).map (·.word?) =
      (texts environment key).getLast?.map fun text => (ofText text).word? := by
  rw [get_in_variable_layer undotted nonempty]
  rcases List.eq_nil_or_concat (texts environment key) with none | ⟨earlier, last, some⟩
  · rw [none]
    rfl
  · rw [some, List.concat_eq_append, List.foldl_append, List.getLast?_concat]
    simp [Setting.word_of_joined]

end Variable
end Settings
end BeamRun
