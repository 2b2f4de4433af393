import BeamRun.Json.Cursor

namespace BeamRun.Json.Reader

variable {α β : Type}

/-- Wherever the text stands in a document, the reader gets `a` from it and leaves `rest`. -/
def Reads (r : Reader α) (text : List Char) (a : α) (rest : List Char) : Prop :=
  ∀ offset, ∃ next, r ⟨text, offset⟩ = .ok (a, ⟨rest, next⟩)

variable {text rest last : List Char}

theorem reads_pure (a : α) (text : List Char) : Reads (pure a) text a text :=
  fun offset => ⟨offset, rfl⟩

theorem Reads.bind {r : Reader α} {f : α → Reader β} {a : α} {b : β} (first : Reads r text a rest)
    (second : Reads (f a) rest b last) : Reads (r >>= f) text b last := by
  intro offset
  obtain ⟨middle, here⟩ := first offset
  obtain ⟨next, there⟩ := second middle
  refine ⟨next, ?_⟩
  change Except.bind (r ⟨text, offset⟩) _ = _
  rw [here]
  exact there

theorem Reads.map {r : Reader α} {a : α} (f : α → β) (first : Reads r text a rest) :
    Reads (f <$> r) text (f a) rest := by
  intro offset
  obtain ⟨next, here⟩ := first offset
  refine ⟨next, ?_⟩
  change Except.bind (r ⟨text, offset⟩) _ = _
  rw [here]
  rfl

theorem reads_peekChar (text : List Char) : Reads peekChar text text.head? text :=
  fun offset => ⟨offset, rfl⟩

theorem reads_advance (c : Char) (text : List Char) : Reads advance (c :: text) () text :=
  fun offset => ⟨offset + c.utf8Size, rfl⟩

theorem reads_remaining (text : List Char) : Reads remaining text text.length text :=
  fun offset => ⟨offset, rfl⟩

def AllBlank (cs : List Char) : Prop := ∀ c ∈ cs, isBlank c = true

theorem allBlank_nil : AllBlank [] := fun _ member => by cases member

def Dense (text : List Char) : Prop := ∀ c ∈ text.head?, isBlank c = false

theorem dense_cons {c : Char} (rest : List Char) (ink : isBlank c = false) : Dense (c :: rest) := by
  intro d first
  cases first
  exact ink

theorem dropWhile_blanks {blanks : List Char} (blank : AllBlank blanks)
    (dense : Dense text) : (blanks ++ text).dropWhile isBlank = text := by
  induction blanks with
  | nil =>
    cases text with
    | nil => rfl
    | cons c text => simp [dense c rfl]
  | cons b blanks ih =>
    rw [List.cons_append, List.dropWhile_cons, if_pos (blank b List.mem_cons_self)]
    exact ih fun c member => blank c (List.mem_cons_of_mem b member)

theorem reads_peek {blanks : List Char} (blank : AllBlank blanks)
    (dense : Dense text) : Reads peek (blanks ++ text) text.head? text := by
  have skip : Reads skipBlanks (blanks ++ text) () text := by
    intro offset
    refine ⟨offset + ((blanks ++ text).takeWhile isBlank).length, ?_⟩
    rw [skipBlanks, dropWhile_blanks blank dense]
  exact skip.bind (reads_peekChar text)

theorem reads_peek_dense (dense : Dense text) : Reads peek text text.head? text :=
  reads_peek allBlank_nil dense

theorem reads_word (w rest : List Char) : Reads (word w) (w ++ rest) () rest := by
  induction w with
  | nil => exact reads_pure () rest
  | cons c w ih =>
    refine (reads_peekChar _).bind ?_
    simp only [List.cons_append, List.head?_cons, if_true]
    exact (reads_advance c _).bind ih

theorem reads_colon {blanks : List Char} (blank : AllBlank blanks) :
    Reads colon (blanks ++ ':' :: rest) () rest := by
  refine (reads_peek blank (dense_cons rest rfl)).bind ?_
  exact reads_advance ':' rest

theorem run_of_reads {r : Reader α} {text : String} {a : α} (reads : Reads r text.toList a rest)
    (blank : AllBlank rest) : r.run text = .ok a := by
  have atEnd : Reads peek rest none [] := by
    have skip : Reads peek (rest ++ []) none [] := reads_peek blank fun _ none => by cases none
    rwa [List.append_nil] at skip
  obtain ⟨middle, first⟩ := reads 0
  obtain ⟨next, second⟩ := atEnd middle
  simp only [run, bind, StateT.bind, Except.bind, first, second]
  rfl

end BeamRun.Json.Reader
