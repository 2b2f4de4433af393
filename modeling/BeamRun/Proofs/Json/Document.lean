import BeamRun.Proofs.Binary64.Reread
import BeamRun.Proofs.Json.Object

/-! Whole documents: whichever way a value is laid out, reading gives it again, with real numbers as the
reader rounds them and the entries of objects in the order of their keys. -/

namespace BeamRun.Json

/-- A value in which no more than so many brackets are open at once. -/
def Within : Nat → Json → Prop
  | 0, array _ => False
  | 0, object _ => False
  | depth + 1, array items => ∀ v ∈ items, Within depth v
  | depth + 1, object entries => ∀ entry ∈ entries, Within depth entry.2
  | _, _ => True

theorem Within.of_zero {v : Json} (flat : v.Within 0) (depth : Nat) : v.Within depth := by
  cases depth with
  | zero => exact flat
  | succ depth =>
    cases v with
    | array _ => exact absurd flat not_false
    | object _ => exact absurd flat not_false
    | _ => trivial

mutual
def reread : Json → Json
  | null => null
  | bool b => bool b
  | number (.whole n) => number (.whole n)
  | number (.real x) => number (.real ⟨x.val.reread, Binary64.isFinite_reread x.property⟩)
  | string s => string s
  | array items => array (rereadItems items)
  | object entries => object (Entries.ofList (rereadEntries entries))

def rereadItems : List Json → List Json
  | [] => []
  | v :: more => reread v :: rereadItems more

def rereadEntries : List (String × Json) → List (String × Json)
  | [] => []
  | (key, v) :: more => (key, reread v) :: rereadEntries more
end

theorem rereadItems_eq (items : List Json) : rereadItems items = items.map reread := by
  induction items with
  | nil => rfl
  | cons v more ih => rw [rereadItems, ih, List.map_cons]

theorem rereadEntries_eq (entries : List (String × Json)) :
    rereadEntries entries = entries.map fun entry => (entry.1, entry.2.reread) := by
  induction entries with
  | nil => rfl
  | cons entry more ih => rw [rereadEntries, ih, List.map_cons]

theorem reread_array (items : List Json) : (array items).reread = array (items.map reread) := by
  rw [reread, rereadItems_eq]

theorem reread_object (entries : List (String × Json)) :
    (object entries).reread =
      object (Entries.ofList (entries.map fun entry => (entry.1, entry.2.reread))) := by
  rw [reread, rereadEntries_eq]

/-- On one line, or indented from a level on. -/
abbrev Layout := Option Nat

namespace Layout

def chars : Layout → Json → List Char
  | none, v => v.chars
  | some level, v => v.prettyChars level

/-- In front of a closing bracket. -/
def gap : Layout → List Char
  | none => []
  | some level => lineBreak level

/-- Behind a colon. -/
def blank : Layout → List Char
  | none => []
  | some _ => [' ']

/-- What stands between brackets. -/
def inner (l : Layout) : Layout := l.map (· + 1)

@[simp] theorem chars_none : chars none = Json.chars := rfl

@[simp] theorem chars_some (level : Nat) : chars (some level) = prettyChars level := rfl

variable (l : Layout)

theorem chars_array {items : List Json} (nonempty : items ≠ []) :
    l.chars (.array items) =
      '[' :: (itemsText l.inner.gap l.inner.chars true items ++ (l.gap ++ [']'])) := by
  cases l with
  | none => simp [gap, inner, Json.chars, itemChars_eq]
  | some level =>
    cases items with
    | nil => exact absurd rfl nonempty
    | cons v more => simp [gap, inner, prettyChars, prettyItems_eq]

theorem chars_object {entries : List (String × Json)} (nonempty : entries ≠ []) :
    l.chars (.object entries) =
      '\x7b' :: (entriesText l.inner.gap l.inner.blank l.inner.chars true entries ++
        (l.gap ++ ['\x7d'])) := by
  cases l with
  | none => simp [gap, inner, blank, Json.chars, entryChars_eq]
  | some level =>
    cases entries with
    | nil => exact absurd rfl nonempty
    | cons entry more => simp [gap, inner, blank, prettyChars, prettyEntries_eq]

theorem chars_flat {v : Json} (flat : v.Within 0) : l.chars v = v.chars := by
  cases l with
  | none => rfl
  | some level => cases v <;> first | rfl | exact absurd flat not_false

end Layout

namespace Reader

variable {blanks rest : List Char} {nested : Option (Reader Json)}

theorem digit_cases {c : Char} (digit : c.isDigit = true) :
    c ∈ ['0', '1', '2', '3', '4', '5', '6', '7', '8', '9'] := by
  have range : 48 ≤ c.toNat ∧ c.toNat ≤ 57 := Char.isDigit_iff_toNat.mp digit
  have listed : ∀ n < 58, 48 ≤ n →
      Char.ofNat n ∈ ['0', '1', '2', '3', '4', '5', '6', '7', '8', '9'] := by decide
  have here := listed c.toNat (by omega) range.1
  rwa [Char.ofNat_toNat] at here

/-- What can be seen of each of the ten digits is true of a digit. -/
theorem holds_of_digit {p : Char → Bool} {c : Char} (digit : c.isDigit = true)
    (all : ['0', '1', '2', '3', '4', '5', '6', '7', '8', '9'].all p = true) : p c = true :=
  List.all_eq_true.mp all c (digit_cases digit)

theorem reads_numeral_value {n : Numeral} {v : Number} (formed : n.WellFormed)
    (value : n.value? = some v) (blank : AllBlank blanks) (stop : Ended rest) :
    Reads (valueOver nested)
      (blanks ++ ((if n.negative then ['-'] else []) ++ n.chars ++ rest)) (.number v) rest := by
  have read := reads_number formed stop value
  by_cases negative : n.negative = true
  · rw [negative] at read
    rw [if_pos negative]
    refine (reads_peek blank (dense_cons _ rfl)).bind ?_
    exact (reads_advance '-' _).bind (read.map _)
  · have positive : n.negative = false := Bool.not_eq_true _ ▸ negative
    rw [positive] at read
    rw [if_neg negative, List.nil_append]
    obtain ⟨d, ds, whole⟩ := List.exists_cons_of_ne_nil formed.whole_ne_nil
    have digit : d.isDigit = true := formed.whole_digits d (whole ▸ List.mem_cons_self)
    have text : n.chars ++ rest = d :: (ds ++ (n.fractionChars ++ (n.exponentChars ++ rest))) := by
      simp [Numeral.chars, whole]
    rw [text] at read ⊢
    -- A digit is none of the characters by which other values begin.
    have listed := digit_cases digit
    simp only [List.mem_cons, List.not_mem_nil, or_false] at listed
    rcases listed with rfl | rfl | rfl | rfl | rfl | rfl | rfl | rfl | rfl | rfl <;>
      exact (reads_peek blank (dense_cons _ rfl)).bind (read.map _)

theorem reads_string_value (s : String) (blank : AllBlank blanks) :
    Reads (valueOver nested) (blanks ++ (stringChars s ++ rest)) (.string s) rest := by
  have text : stringChars s ++ rest = '"' :: (s.toList.flatMap escapeChar ++ '"' :: rest) := by
    simp [stringChars]
  rw [text]
  refine (reads_peek blank (dense_cons _ rfl)).bind ?_
  exact (reads_advance '"' _).bind ((reads_string s).map _)

theorem reads_bool_value (b : Bool) (blank : AllBlank blanks) :
    Reads (valueOver nested) (blanks ++ ((Json.bool b).chars ++ rest)) (.bool b) rest := by
  cases b with
  | true =>
    refine (reads_peek blank (dense_cons _ rfl)).bind ?_
    exact (reads_advance 't' _).bind ((reads_word ['r', 'u', 'e'] rest).bind (reads_pure _ _))
  | false =>
    refine (reads_peek blank (dense_cons _ rfl)).bind ?_
    exact (reads_advance 'f' _).bind ((reads_word ['a', 'l', 's', 'e'] rest).bind (reads_pure _ _))

/-- A number is written as a numeral that stands for what a reader makes of it. -/
theorem exists_numeral (n : Number) :
    ∃ (m : Numeral) (v : Number), m.WellFormed ∧ m.value? = some v ∧
      (Json.number n).reread = .number v ∧
      (Json.number n).chars = (if m.negative then ['-'] else []) ++ m.chars := by
  cases n with
  | whole n =>
    refine ⟨_, _, Numeral.wellFormed_ofWhole _, Numeral.value_of_whole n, rfl, ?_⟩
    rw [chars, Number.chars, Numeral.ofInt_eq]
    simp [Numeral.ofWhole]
  | real x =>
    refine ⟨_, _, Numeral.wellFormed_ofFinite x.property, Numeral.value_of_finite x.property, rfl, ?_⟩
    rw [chars, Number.chars, Numeral.text_eq x.property, Numeral.negative_ofFinite]
    rfl

theorem reads_flat {v : Json} (flat : v.Within 0) (blank : AllBlank blanks) (stop : Ended rest) :
    Reads (valueOver nested) (blanks ++ (v.chars ++ rest)) v.reread rest := by
  cases v with
  | null =>
    refine (reads_peek blank (dense_cons _ rfl)).bind ?_
    exact (reads_advance 'n' _).bind ((reads_word ['u', 'l', 'l'] rest).bind (reads_pure _ _))
  | bool b => exact reads_bool_value b blank
  | string s => exact reads_string_value s blank
  | array _ => exact absurd flat not_false
  | object _ => exact absurd flat not_false
  | number n =>
    obtain ⟨m, v, formed, value, meant, text⟩ := exists_numeral n
    rw [meant, text]
    exact reads_numeral_value formed value blank stop

theorem opens_chars (v : Json) : Opens v.chars := by
  cases v with
  | null => exact ⟨'n', _, rfl, by decide, by decide⟩
  | bool b => cases b <;> exact ⟨_, _, rfl, by decide, by decide⟩
  | string s => exact ⟨'"', _, rfl, by decide, by decide⟩
  | array items => exact ⟨'[', _, by rw [chars]; rfl, by decide, by decide⟩
  | object entries => exact ⟨'\x7b', _, by rw [chars]; rfl, by decide, by decide⟩
  | number n =>
    obtain ⟨m, -, formed, -, -, text⟩ := exists_numeral n
    obtain ⟨d, ds, whole⟩ := List.exists_cons_of_ne_nil formed.whole_ne_nil
    rw [text]
    cases m.negative with
    | true => exact ⟨'-', m.chars, rfl, by decide, by decide⟩
    | false =>
      have ink : (!isBlank d && d ≠ ']') = true :=
        holds_of_digit (p := fun c => !isBlank c && c ≠ ']')
          (formed.whole_digits d (whole ▸ List.mem_cons_self)) (by decide)
      exact ⟨d, ds ++ m.fractionChars ++ m.exponentChars, by simp [Numeral.chars, whole],
        by simpa using ink⟩

/-- An indented value begins like the same value on one line. -/
theorem opens_layout (l : Layout) (v : Json) : Opens (l.chars v) := by
  cases l with
  | none => exact opens_chars v
  | some level =>
    cases v with
    | array items =>
      cases items with
      | nil => exact opens_chars _
      | cons v more => exact ⟨'[', _, by rw [Layout.chars, prettyChars]; rfl, by decide, by decide⟩
    | object entries =>
      cases entries with
      | nil => exact opens_chars _
      | cons entry more => exact ⟨'\x7b', _, by rw [Layout.chars, prettyChars]; rfl, by decide, by decide⟩
    | _ => exact opens_chars _

theorem allBlank_gap (l : Layout) : AllBlank l.gap := by
  cases l with
  | none => exact allBlank_nil
  | some level => exact line_break_blank level

theorem allBlank_blank (l : Layout) : AllBlank l.blank := by
  cases l with
  | none => exact allBlank_nil
  | some level =>
    intro c member
    rw [List.mem_singleton.mp member]
    rfl

/-- Step over a list: its items are read, so the list is. -/
theorem reads_array_value {item : Reader Json} (l : Layout) {items : List Json}
    (blank : AllBlank blanks)
    (each : ∀ v ∈ items, ∀ rest, Ended rest → Reads item (l.inner.chars v ++ rest) v.reread rest) :
    Reads (valueOver (some item)) (blanks ++ (l.chars (.array items) ++ rest))
      (Json.array items).reread rest := by
  have read : ∃ inside, l.chars (.array items) ++ rest = '[' :: inside ∧
      Reads (list item) inside (items.map reread) rest := by
    cases items with
    | nil =>
      have empty : Reads (list item) (itemsText [] l.inner.chars true [] ++ ([] ++ ']' :: rest)) [] rest :=
        reads_list allBlank_nil allBlank_nil (fun v _ => opens_layout _ v) each
      exact ⟨_, by cases l <;> rfl, empty⟩
    | cons v more =>
      rw [l.chars_array (List.cons_ne_nil v more)]
      exact ⟨_, by rw [List.cons_append, List.append_assoc, List.append_assoc]; rfl,
        reads_list (allBlank_gap _) (allBlank_gap l) (fun v _ => opens_layout _ v) each⟩
  obtain ⟨inside, text, items⟩ := read
  rw [text, reread_array]
  refine (reads_peek blank (dense_cons _ rfl)).bind ?_
  exact (reads_advance _ _).bind (items.map _)

theorem reads_object_value {item : Reader Json} (l : Layout) {entries : List (String × Json)}
    (blank : AllBlank blanks)
    (each : ∀ entry ∈ entries, ∀ rest, Ended rest →
      Reads item (l.inner.blank ++ (l.inner.chars entry.2 ++ rest)) entry.2.reread rest) :
    Reads (valueOver (some item)) (blanks ++ (l.chars (.object entries) ++ rest))
      (Json.object entries).reread rest := by
  have read : ∃ inside, l.chars (.object entries) ++ rest = '\x7b' :: inside ∧
      Reads (object item) inside (entries.map fun entry => (entry.1, entry.2.reread)) rest := by
    cases entries with
    | nil =>
      have empty : Reads (object item)
          (entriesText [] l.inner.blank l.inner.chars true [] ++ ([] ++ '\x7d' :: rest)) [] rest :=
        reads_object allBlank_nil allBlank_nil each
      exact ⟨_, by cases l <;> rfl, empty⟩
    | cons entry more =>
      rw [l.chars_object (List.cons_ne_nil entry more)]
      exact ⟨_, by rw [List.cons_append, List.append_assoc, List.append_assoc]; rfl,
        reads_object (allBlank_gap _) (allBlank_gap l) each⟩
  obtain ⟨inside, text, entries⟩ := read
  rw [text, reread_object]
  refine (reads_peek blank (dense_cons _ rfl)).bind ?_
  exact (reads_advance _ _).bind (entries.map _)

/-- By induction on the brackets that a reader may have open. -/
theorem reads_value {v : Json} {depth : Nat} (within : v.Within depth) (l : Layout)
    (blank : AllBlank blanks) (stop : Ended rest) :
    Reads (value depth) (blanks ++ (l.chars v ++ rest)) v.reread rest := by
  induction depth generalizing v l blanks rest with
  | zero =>
    rw [l.chars_flat within]
    exact reads_flat within blank stop
  | succ depth ih =>
    by_cases flat : v.Within 0
    · rw [l.chars_flat flat]
      exact reads_flat flat blank stop
    · cases v with
      | array items =>
        exact reads_array_value l blank fun v member rest stop =>
          ih (within v member) l.inner allBlank_nil stop
      | object entries =>
        exact reads_object_value l blank fun entry member rest stop =>
          ih (within entry member) l.inner (allBlank_blank _) stop
      | _ => exact absurd trivial flat

theorem ended_of_allBlank (blank : AllBlank rest) : Ended rest := by
  have closed : Ended (rest ++ ']' :: []) := ended_of_blank [] blank (.head _)
  intro c first
  refine closed c ?_
  rw [List.head?_append, first]
  rfl

end Reader

variable {v : Json} {text : String} {rest : List Char}

/-- The text of a value that a reader has enough brackets for, and blanks behind it. -/
theorem parse_eq_reread (within : v.Within depthLimit) (l : Layout)
    (laidOut : text.toList = l.chars v ++ rest) (blank : Reader.AllBlank rest) :
    parse text = .ok v.reread := by
  refine Reader.run_of_reads ?_ blank
  rw [laidOut]
  exact Reader.reads_value within l Reader.allBlank_nil (Reader.ended_of_allBlank blank)

/-- The texts in which a value is written, with the end of a line or without. -/
def documents (v : Json) : List String := [v.text, v.text ++ "\n", v.pretty, v.pretty ++ "\n"]

theorem text_line_mem_documents (v : Json) : v.text ++ "\n" ∈ v.documents := .tail _ (.head _)

theorem pretty_line_mem_documents (v : Json) : v.pretty ++ "\n" ∈ v.documents :=
  .tail _ (.tail _ (.tail _ (.head _)))

theorem parse_document (within : v.Within depthLimit) (written : text ∈ v.documents) :
    parse text = .ok v.reread := by
  have lineFeed : Reader.AllBlank ['\n'] := Reader.line_break_blank 0
  simp only [documents, List.mem_cons, List.not_mem_nil, or_false] at written
  rcases written with rfl | rfl | rfl | rfl
  · exact parse_eq_reread within none (by simp [Json.text]) Reader.allBlank_nil
  · exact parse_eq_reread within none (by simp [Json.text]) lineFeed
  · exact parse_eq_reread within (some 0) (by simp [pretty]) Reader.allBlank_nil
  · exact parse_eq_reread within (some 0) (by simp [pretty]) lineFeed

end BeamRun.Json
