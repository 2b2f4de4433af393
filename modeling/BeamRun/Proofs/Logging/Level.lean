import BeamRun.Logging.Config
import BeamRun.Proofs.Catalogue
import BeamRun.Proofs.Decimal.Digits

/-! What may be written for a level of the log. A program whose level is written in another way has no
filter, and leaves the log as it is. -/

namespace BeamRun.Logging

theorem toLower_of_lt {c : Char} (below : c.toNat < 'A'.toNat) : c.toLower = c := by
  unfold Char.toLower
  refine dif_neg fun range => ?_
  exact absurd (UInt32.le_iff_toNat_le.mp range.1) (Nat.not_le.mpr below)

namespace Level

/-- What stands for a level: its name in letters of either case, its place among the levels in digits
that may follow a plus sign, and for the level of errors also nothing at all. -/
inductive Denotes : String → Level → Prop
  | name {s : String} {l : Level} (letters : s.toList.map Char.toLower = l.name.toList) : Denotes s l
  | place {s : String} {l : Level} {digits : List Char}
      (written : s.toList = digits ∨ s.toList = '+' :: digits) (nonempty : digits ≠ [])
      (decimal : Decimal.AllDigits digits) (there : all[Decimal.value digits]? = some l) : Denotes s l
  | nothing : Denotes "" error

theorem mem_all (l : Level) : l ∈ all := by
  cases l <;> decide

theorem name_injective {l k : Level} (same : l.name = k.name) : l = k := by
  revert same
  cases l <;> cases k <;> decide

theorem name_ne_empty (l : Level) : l.name ≠ "" := by
  cases l <;> decide

theorem not_digit_of_mem_name {l : Level} {c : Char} (member : c ∈ l.name.toList) :
    c.isDigit = false ∧ c ≠ '+' := by
  have letters : l.name.toList.all (fun c => !c.isDigit && c != '+') = true := by
    cases l <;> decide +kernel
  simpa using List.all_eq_true.mp letters c member

theorem named_eq_some_iff (cs : List Char) (l : Level) :
    all.find? (fun k => k.name.toList = cs) = some l ↔ l.name.toList = cs := by
  rw [find?_eq_some_iff_of_unique mem_all, decide_eq_true_eq]
  intro a b first second
  have same := (of_decide_eq_true first).trans (of_decide_eq_true second).symm
  exact name_injective (String.toList_inj.mp same)

/-- No digits begin with a plus sign, so one that is there is not among them. -/
theorem withoutPlus_eq_iff {digits : List Char} (decimal : Decimal.AllDigits digits) (cs : List Char) :
    (if cs.head? = some '+' then cs.drop 1 else cs) = digits ↔ cs = digits ∨ cs = '+' :: digits := by
  cases cs with
  | nil => simp
  | cons c cs =>
    by_cases plus : c = '+'
    · subst plus
      have other : '+' :: cs ≠ digits := by
        rintro rfl
        exact decimal.not_mem (by decide) List.mem_cons_self
      simp [other]
    · simp [plus]

theorem digits_denote_iff (cs : List Char) (l : Level) :
    ofDigits? cs = some l ↔ ∃ digits, (cs = digits ∨ cs = '+' :: digits) ∧ digits ≠ [] ∧
      Decimal.AllDigits digits ∧ all[Decimal.value digits]? = some l := by
  simp only [ofDigits?, Option.ite_none_left_eq_some, Bool.or_eq_true, List.isEmpty_iff,
    Bool.not_eq_true', not_or, Bool.not_eq_false]
  constructor
  · rintro ⟨⟨nonempty, decimal⟩, there⟩
    have decimal := List.all_eq_true.mp decimal
    exact ⟨_, (withoutPlus_eq_iff decimal cs).mp rfl, nonempty, decimal, there⟩
  · rintro ⟨digits, written, nonempty, decimal, there⟩
    rw [(withoutPlus_eq_iff decimal cs).mpr written]
    exact ⟨⟨nonempty, List.all_eq_true.mpr decimal⟩, there⟩

theorem no_digits_of_name {cs : List Char} {l : Level}
    (letters : cs.map Char.toLower = l.name.toList) : ofDigits? cs = none := by
  have letter (c : Char) (member : c ∈ cs) (below : c.toNat < 'A'.toNat) :
      c.isDigit = false ∧ c ≠ '+' := by
    apply not_digit_of_mem_name (l := l)
    rw [← letters, ← toLower_of_lt below]
    exact List.mem_map_of_mem member
  apply Option.eq_none_iff_forall_ne_some.mpr
  intro k read
  obtain ⟨digits, written, nonempty, decimal, -⟩ := (digits_denote_iff cs k).mp read
  rcases written with rfl | rfl
  · obtain ⟨c, rest, rfl⟩ := List.exists_cons_of_ne_nil nonempty
    have digit := decimal c List.mem_cons_self
    have range := Char.isDigit_iff_toNat.mp digit
    have below : c.toNat < 'A'.toNat := Nat.lt_of_le_of_lt range.2 (by decide)
    rw [(letter c List.mem_cons_self below).1] at digit
    cases digit
  · exact (letter '+' List.mem_cons_self (by decide)).2 rfl

theorem denotes_empty_iff (l : Level) : Denotes "" l ↔ l = error := by
  constructor
  · intro denotes
    cases denotes with
    | name letters => exact absurd (String.toList_inj.mp letters.symm) l.name_ne_empty
    | place written nonempty =>
      rcases written with same | same
      · exact absurd same.symm nonempty
      · cases same
    | nothing => rfl
  · rintro rfl
    exact .nothing

theorem parse_iff_denotes (s : String) (l : Level) : parse? s = some l ↔ Denotes s l := by
  by_cases empty : s = ""
  · subst empty
    rw [denotes_empty_iff, show parse? "" = some error from rfl, Option.some_inj, eq_comm]
  · have characters : s.toList.isEmpty = false := by simpa using empty
    simp only [parse?, characters, Bool.false_eq_true, if_false, Option.or_eq_some_iff, named_eq_some_iff]
    constructor
    · rintro (read | ⟨-, letters⟩)
      · obtain ⟨digits, written, nonempty, decimal, there⟩ := (digits_denote_iff _ l).mp read
        exact .place written nonempty decimal there
      · exact .name letters.symm
    · intro denotes
      cases denotes with
      | name letters => exact .inr ⟨no_digits_of_name letters, letters.symm⟩
      | place written nonempty decimal there =>
        exact .inl ((digits_denote_iff _ l).mpr ⟨_, written, nonempty, decimal, there⟩)
      | nothing => exact absurd rfl empty

theorem denotes_name (l : Level) : Denotes l.name l := .name (by cases l <;> decide +kernel)

end Level

namespace Config

variable {c : Config} {l : Level} {requested : Option String}

theorem levelFilter_eq_ok_iff (c : Config) (l : Level) :
    c.levelFilter = .ok l ↔ Level.Denotes c.level l := by
  rw [← Level.parse_iff_denotes, levelFilter]
  cases Level.parse? c.level <;> simp

theorem levelFilter_eq_error_iff (c : Config) (fault : Fault) :
    c.levelFilter = .error fault ↔
      fault = .invalidLevel c.level ∧ ∀ l, ¬ Level.Denotes c.level l := by
  simp only [← Level.parse_iff_denotes, levelFilter]
  cases Level.parse? c.level <;> simp [eq_comm]

theorem filter_none_eq_ok_iff (c : Config) (f : Filter) :
    c.filter none = .ok f ↔ ∃ l, Level.Denotes c.level l ∧ .ofLevel l = f := by
  simp only [← levelFilter_eq_ok_iff, filter, Option.bind_none]
  cases c.levelFilter <;> simp [Except.map]

theorem filter_none_eq_error_iff (c : Config) (fault : Fault) :
    c.filter none = .error fault ↔
      fault = .invalidLevel c.level ∧ ∀ l, ¬ Level.Denotes c.level l := by
  rw [← levelFilter_eq_error_iff, filter, Option.bind_none]
  cases c.levelFilter <;> simp [Except.map]

/-- The level is looked at before anything is installed, and whatever is installed already. -/
theorem install_eq_invalidLevel_iff (c : Config) (installed : Bool) (level : String) :
    c.install requested installed = .error (.invalidLevel level) ↔
      c.filter requested = .error (.invalidLevel level) := by
  rw [install]
  cases c.filter requested with
  | error fault => rfl
  | ok f => cases installed <;> exact ⟨nofun, nofun⟩

/-- The filter in force after an attempt to install one, where there may have been another before. -/
def inForce (c : Config) (requested : Option String) (current : Option Filter) : Option Filter :=
  match c.install requested current.isSome with
  | .ok f => some f
  | .error _ => current

/-- A level is read from its name, in letters of either case, from its place among the levels in digits,
and from no text at all; every other text is refused as it is. If the environment requests no filter,
the filter is that of the level, and a level that is refused leaves the log as it is. -/
theorem level_read_exactly (c : Config) :
    (∀ l : Level, c.level = l.name → c.levelFilter = .ok l) ∧
    (∀ l, c.levelFilter = .ok l ↔ Level.Denotes c.level l) ∧
    (∀ fault, c.levelFilter = .error fault ↔
      fault = .invalidLevel c.level ∧ ∀ l, ¬ Level.Denotes c.level l) ∧
    (∀ fault, c.filter none = .error fault ↔
      fault = .invalidLevel c.level ∧ ∀ l, ¬ Level.Denotes c.level l) ∧
    (∀ level installed, c.install none installed = .error (.invalidLevel level) ↔
      level = c.level ∧ ∀ l, ¬ Level.Denotes c.level l) ∧
    (∀ l, Level.Denotes c.level l → c.inForce none none = some (.ofLevel l)) ∧
    ((∀ l, ¬ Level.Denotes c.level l) → ∀ current, c.inForce none current = current) := by
  refine ⟨?_, c.levelFilter_eq_ok_iff, c.levelFilter_eq_error_iff, c.filter_none_eq_error_iff, ?_, ?_, ?_⟩
  · intro l named
    apply (c.levelFilter_eq_ok_iff l).mpr
    rw [named]
    exact l.denotes_name
  · intro level installed
    rw [install_eq_invalidLevel_iff, filter_none_eq_error_iff, Fault.invalidLevel.injEq]
  · intro l denotes
    have filtered := (c.filter_none_eq_ok_iff _).mpr ⟨l, denotes, rfl⟩
    have installed : c.install none false = .ok (.ofLevel l) := by
      rw [install, filtered]
      rfl
    rw [inForce, Option.isSome_none, installed]
  · intro other current
    have refused := (c.filter_none_eq_error_iff _).mpr ⟨rfl, other⟩
    rw [inForce, (c.install_eq_invalidLevel_iff _ _).mpr refused]

def loud : Config := { default with level := "loud" }

def third : Config := { default with level := "+03" }

theorem level_read_exactly_loudAndThird :
    default.level = Level.info.name ∧ default.levelFilter = .ok .info ∧
      Level.Denotes third.level .info ∧ third.inForce none none = some (.ofLevel .info) ∧
      (∀ l, ¬ Level.Denotes loud.level l) ∧ loud.levelFilter = .error (.invalidLevel "loud") ∧
      loud.inForce none (some (.ofLevel .warn)) = some (.ofLevel .warn) := by
  have named : default.level = Level.info.name := rfl
  have denotes : Level.Denotes third.level .info := by
    have digits : Decimal.AllDigits ['0', '3'] := List.all_eq_true.mp rfl
    exact .place (.inr rfl) (List.cons_ne_nil _ _) digits rfl
  have unread : Level.parse? loud.level = none := by decide +kernel
  have other : ∀ l, ¬ Level.Denotes loud.level l := by
    intro l denotes
    rw [← Level.parse_iff_denotes, unread] at denotes
    cases denotes
  obtain ⟨byName, -⟩ := level_read_exactly default
  obtain ⟨-, -, -, -, -, installed, -⟩ := level_read_exactly third
  obtain ⟨-, -, refused, -, -, -, unchanged⟩ := level_read_exactly loud
  exact ⟨named, byName _ named, denotes, installed _ denotes, other, (refused _).mpr ⟨rfl, other⟩,
    unchanged other _⟩

/-- No level has an empty name, and yet a program that asks for it gets the level of errors. -/
theorem empty_level_accepted :
    "" ∉ Level.all.map Level.name ∧
      levelFilter { default with level := "" } = .ok .error ∧
      filter { default with level := "" } none = .ok (.ofLevel .error) := by
  decide +kernel

end Config
end BeamRun.Logging
