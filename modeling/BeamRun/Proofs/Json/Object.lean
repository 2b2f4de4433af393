import BeamRun.Proofs.Json.Numeral
import BeamRun.Proofs.Json.Quoted

namespace BeamRun.Json

variable {α β : Type}

/-- The entries of an object with the same blanks in front of every key and of every value. -/
def entriesText (gap inner : List Char) (write : α → List Char) :
    Bool → List (String × α) → List Char
  | _, [] => []
  | first, (key, a) :: more =>
    (if first then [] else [',']) ++ gap ++ stringChars key ++ ':' :: inner ++ write a ++
      entriesText gap inner write false more

/-- The items of a list with the same blanks in front of each. -/
def itemsText (gap : List Char) (write : α → List Char) : Bool → List α → List Char
  | _, [] => []
  | first, a :: more =>
    (if first then [] else [',']) ++ gap ++ write a ++ itemsText gap write false more

theorem itemsText_map (gap : List Char) (write : β → List Char) (f : α → β) (first : Bool) (as : List α) :
    itemsText gap write first (as.map f) = itemsText gap (fun a => write (f a)) first as := by
  induction as generalizing first with
  | nil => rfl
  | cons a more ih => rw [List.map_cons, itemsText, itemsText, ih]

/-- An object's entries stand like the items of a list. -/
theorem entriesText_eq (gap inner : List Char) (write : α → List Char) (first : Bool)
    (es : List (String × α)) :
    entriesText gap inner write first es =
      itemsText gap (fun entry => stringChars entry.1 ++ ':' :: inner ++ write entry.2) first es := by
  induction es generalizing first with
  | nil => rfl
  | cons entry more ih =>
    rcases entry with ⟨key, a⟩
    simp [entriesText, itemsText, ih]

theorem itemChars_eq (first : Bool) (vs : List Json) :
    itemChars first vs = itemsText [] chars first vs := by
  induction vs generalizing first with
  | nil => rfl
  | cons v more ih => simp [itemChars, itemsText, ih]

theorem prettyItems_eq (level : Nat) (first : Bool) (vs : List Json) :
    prettyItems level first vs = itemsText (lineBreak level) (prettyChars level) first vs := by
  induction vs generalizing first with
  | nil => rfl
  | cons v more ih => simp [prettyItems, itemsText, ih]

theorem entryChars_eq (first : Bool) (es : List (String × Json)) :
    entryChars first es = entriesText [] [] chars first es := by
  induction es generalizing first with
  | nil => rfl
  | cons entry more ih =>
    rcases entry with ⟨key, v⟩
    simp [entryChars, entriesText, ih]

theorem prettyEntries_eq (level : Nat) (first : Bool) (es : List (String × Json)) :
    prettyEntries level first es = entriesText (lineBreak level) [' '] (prettyChars level) first es := by
  induction es generalizing first with
  | nil => rfl
  | cons entry more ih =>
    rcases entry with ⟨key, v⟩
    simp [prettyEntries, entriesText, ih]

namespace Reader

theorem line_break_blank (level : Nat) : AllBlank (lineBreak level) := by
  intro c member
  rcases List.mem_cons.mp member with rfl | member
  · rfl
  · rw [List.eq_of_mem_replicate member]
    rfl

variable {gap inner last rest : List Char}

theorem reads_hasKey (blank : AllBlank gap) (first : Bool) :
    Reads (hasKey first) ((if first then [] else [',']) ++ gap ++ '"' :: rest) true rest := by
  have quote : Reads peek (gap ++ '"' :: rest) (some '"') ('"' :: rest) :=
    reads_peek blank (dense_cons rest rfl)
  cases first with
  | true => exact quote.bind ((reads_advance '"' rest).bind (reads_pure _ _))
  | false =>
    refine (reads_peek_dense (dense_cons _ rfl)).bind ?_
    refine (reads_advance ',' _).bind ?_
    exact quote.bind ((reads_advance '"' rest).bind (reads_pure _ _))

theorem reads_hasKey_end (blank : AllBlank last) (first : Bool) :
    Reads (hasKey first) (last ++ '\x7d' :: rest) false ('\x7d' :: rest) :=
  (reads_peek blank (dense_cons rest rfl)).bind (reads_pure _ _)

theorem reads_endObject : Reads endObject ('\x7d' :: rest) () rest :=
  (reads_peek_dense (dense_cons rest rfl)).bind (reads_advance _ rest)

theorem ended_cons {c : Char} (rest : List Char)
    (other : c.isDigit = false ∧ c ≠ '.' ∧ c ≠ 'e' ∧ c ≠ 'E') : Ended (c :: rest) := by
  intro d first
  cases first
  exact other

theorem ended_of_blank {close : Char} (rest : List Char) (blank : AllBlank last)
    (bracket : close ∈ [']', '\x7d']) : Ended (last ++ close :: rest) := by
  cases last with
  | nil =>
    refine ended_cons rest ?_
    simp only [List.mem_cons, List.not_mem_nil, or_false] at bracket
    rcases bracket with rfl | rfl <;> decide
  | cons b last =>
    refine ended_cons _ ?_
    have ink := blank b List.mem_cons_self
    simp only [isBlank, Bool.or_eq_true, decide_eq_true_eq] at ink
    rcases ink with ((rfl | rfl) | rfl) | rfl <;> decide

section Lists

/-- The text begins with something that is no blank and does not end a list. -/
def Opens (text : List Char) : Prop := ∃ c cs, text = c :: cs ∧ isBlank c = false ∧ c ≠ ']'

theorem Opens.append {text : List Char} (opens : Opens text) (rest : List Char) : Opens (text ++ rest) := by
  obtain ⟨c, cs, rfl, ink, other⟩ := opens
  exact ⟨c, cs ++ rest, rfl, ink, other⟩

theorem reads_hasItem {text : List Char} (blank : AllBlank gap) (opens : Opens text) (first : Bool) :
    Reads (hasItem first) ((if first then [] else [',']) ++ gap ++ text) true text := by
  obtain ⟨c, cs, rfl, ink, other⟩ := opens
  have begin : Reads peek (gap ++ c :: cs) (some c) (c :: cs) := reads_peek blank (dense_cons cs ink)
  cases first with
  | true =>
    refine begin.bind ?_
    split
    · next none => cases none
    · next bracket => exact absurd (Option.some.inj bracket) other
    · exact reads_pure _ _
  | false =>
    refine (reads_peek_dense (dense_cons _ rfl)).bind ?_
    refine (reads_advance ',' _).bind (begin.bind ?_)
    split
    · next none => cases none
    · next bracket => exact absurd (Option.some.inj bracket) other
    · exact reads_pure _ _

theorem reads_hasItem_end (blank : AllBlank last) (first : Bool) :
    Reads (hasItem first) (last ++ ']' :: rest) false (']' :: rest) :=
  (reads_peek blank (dense_cons rest rfl)).bind (reads_pure _ _)

theorem reads_endList : Reads endList (']' :: rest) () rest :=
  (reads_peek_dense (dense_cons _ rfl)).bind (reads_advance _ _)

variable {item : Reader β} {write : α → List Char} {meaning : α → β}

/-- The end of an item is never taken for the rest of a number. -/
theorem ended_itemsText (gap rest : List Char) (write : α → List Char) (blank : AllBlank last)
    {close : Char} (bracket : close ∈ [']', '\x7d']) (as : List α) :
    Ended (itemsText gap write false as ++ (last ++ close :: rest)) := by
  cases as with
  | nil => exact ended_of_blank rest blank bracket
  | cons a more => exact ended_cons _ (by decide)

theorem reads_items (gapBlank : AllBlank gap) (lastBlank : AllBlank last) {as : List α}
    (opens : ∀ a ∈ as, Opens (write a))
    (each : ∀ a ∈ as, ∀ rest, Ended rest → Reads item (write a ++ rest) (meaning a) rest)
    {fuel : Nat} (enough : as.length < fuel) (first : Bool) (read : List β) :
    Reads (items item fuel first read) (itemsText gap write first as ++ (last ++ ']' :: rest))
      (read.reverse ++ as.map meaning) rest := by
  induction as generalizing fuel first read with
  | nil =>
    obtain ⟨fuel, rfl⟩ := Nat.exists_eq_add_one_of_ne_zero (Nat.ne_of_gt enough)
    rw [List.map_nil, List.append_nil]
    exact (reads_hasItem_end lastBlank first).bind (reads_endList.bind (reads_pure _ _))
  | cons a more ih =>
    obtain ⟨fuel, rfl⟩ := Nat.exists_eq_add_one_of_ne_zero (Nat.ne_of_gt (Nat.zero_lt_of_lt enough))
    have value := each a List.mem_cons_self _ (ended_itemsText gap rest write lastBlank (.head _) more)
    have after := ih (fun b member => opens b (List.mem_cons_of_mem a member))
      (fun b member => each b (List.mem_cons_of_mem a member))
      (Nat.lt_of_succ_lt_succ enough) false (meaning a :: read)
    rw [List.reverse_cons, List.append_assoc] at after
    rw [itemsText, List.append_assoc, List.append_assoc]
    exact (reads_hasItem gapBlank ((opens a List.mem_cons_self).append _) first).bind
      (value.bind after)

theorem length_le_itemsText (gap : List Char) (first : Bool) {as : List α}
    (opens : ∀ a ∈ as, Opens (write a)) : as.length ≤ (itemsText gap write first as).length := by
  induction as generalizing first with
  | nil => exact Nat.le_refl 0
  | cons a more ih =>
    obtain ⟨c, cs, text, -⟩ := opens a List.mem_cons_self
    have rest := ih false fun b member => opens b (List.mem_cons_of_mem a member)
    simp only [itemsText, text, List.length_append, List.length_cons]
    omega

theorem reads_list (gapBlank : AllBlank gap) (lastBlank : AllBlank last) {as : List α}
    (opens : ∀ a ∈ as, Opens (write a))
    (each : ∀ a ∈ as, ∀ rest, Ended rest → Reads item (write a ++ rest) (meaning a) rest) :
    Reads (list item) (itemsText gap write true as ++ (last ++ ']' :: rest)) (as.map meaning) rest := by
  have long := length_le_itemsText gap true opens
  refine (reads_remaining _).bind ?_
  refine reads_items gapBlank lastBlank opens each ?_ true []
  rw [List.length_append]
  omega

end Lists

section Objects

variable {item : Reader β} {write : α → List Char} {meaning : α → β}

theorem ended_entriesText (gap inner rest : List Char) (write : α → List Char)
    (blank : AllBlank last) (es : List (String × α)) :
    Ended (entriesText gap inner write false es ++ (last ++ '\x7d' :: rest)) := by
  rw [entriesText_eq]
  exact ended_itemsText gap rest _ blank (.tail _ (.head _)) es

theorem reads_entries (gapBlank : AllBlank gap) (lastBlank : AllBlank last)
    {es : List (String × α)}
    (each : ∀ entry ∈ es, ∀ rest, Ended rest →
      Reads item (inner ++ (write entry.2 ++ rest)) (meaning entry.2) rest)
    {fuel : Nat} (enough : es.length < fuel) (first : Bool) (read : List (String × β)) :
    Reads (entries item fuel first read)
      (entriesText gap inner write first es ++ (last ++ '\x7d' :: rest))
      (read.reverse ++ es.map fun entry => (entry.1, meaning entry.2)) rest := by
  induction es generalizing fuel first read with
  | nil =>
    obtain ⟨fuel, rfl⟩ := Nat.exists_eq_add_one_of_ne_zero (Nat.ne_of_gt enough)
    rw [List.map_nil, List.append_nil]
    exact (reads_hasKey_end lastBlank first).bind (reads_endObject.bind (reads_pure _ _))
  | cons entry more ih =>
    rcases entry with ⟨key, a⟩
    obtain ⟨fuel, rfl⟩ := Nat.exists_eq_add_one_of_ne_zero (Nat.ne_of_gt (Nat.zero_lt_of_lt enough))
    have value := each (key, a) List.mem_cons_self _
      (ended_entriesText gap inner rest write lastBlank more)
    have after := ih (fun entry member => each entry (List.mem_cons_of_mem _ member))
      (Nat.lt_of_succ_lt_succ enough) false ((key, meaning a) :: read)
    rw [List.reverse_cons, List.append_assoc] at after
    have text : entriesText gap inner write first ((key, a) :: more) ++ (last ++ '\x7d' :: rest) =
        (if first then [] else [',']) ++ gap ++ '"' :: (key.toList.flatMap escapeChar ++ '"' :: ':' ::
          (inner ++ (write a ++ (entriesText gap inner write false more ++ (last ++ '\x7d' :: rest))))) := by
      simp [entriesText, stringChars]
    rw [text]
    refine (reads_hasKey gapBlank first).bind ?_
    refine (reads_string key).bind ?_
    refine (reads_colon allBlank_nil).bind ?_
    exact value.bind after

theorem length_le_entriesText (gap inner : List Char) (write : α → List Char) (first : Bool)
    (es : List (String × α)) :
    es.length ≤ (entriesText gap inner write first es).length := by
  rw [entriesText_eq]
  exact length_le_itemsText gap first fun entry _ => ⟨'"', _, rfl, by decide, by decide⟩

theorem reads_object (gapBlank : AllBlank gap) (lastBlank : AllBlank last) {es : List (String × α)}
    (each : ∀ entry ∈ es, ∀ rest, Ended rest →
      Reads item (inner ++ (write entry.2 ++ rest)) (meaning entry.2) rest) :
    Reads (object item) (entriesText gap inner write true es ++ (last ++ '\x7d' :: rest))
      (es.map fun entry => (entry.1, meaning entry.2)) rest := by
  have long := length_le_entriesText gap inner write true es
  refine (reads_remaining _).bind ?_
  refine reads_entries gapBlank lastBlank each ?_ true []
  rw [List.length_append]
  omega

end Objects

end Reader
end BeamRun.Json
