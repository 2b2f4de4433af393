import BeamRun.Card
import BeamRun.Proofs.Column
import BeamRun.Proofs.Text

/-! A file of cards in its columns: when there is one, what stands where, and what can be read from
it. -/

namespace BeamRun

namespace Card

theorem mem_all (c : Card) : c ∈ all := by
  cases c <;> decide

theorem getElem?_all (c : Card) : all[all.idxOf c]? = some c := by
  cases c <;> rfl

theorem Entry.whole_of_count {n : UInt64} {field : List Char} (fits : (Entry.count n).column = some field) :
    Column.whole n.toNat = some field := by
  obtain ⟨i, signed, column⟩ := Option.bind_eq_some_iff.mp fits
  rw [signed?] at signed
  split at signed
  · cases signed
    exact column
  · cases signed

theorem Entry.length_column {e : Entry} {field : List Char} (fits : e.column = some field) :
    field.length = Column.fieldWidth := by
  cases e with
  | real x => exact Column.length_of_real fits
  | whole i => exact (Column.whole_eq_some fits).2
  | count n => exact (Column.whole_eq_some (whole_of_count fits)).2

theorem Entry.newline_not_mem_column {e : Entry} {field : List Char}
    (fits : e.column = some field) : '\n' ∉ field := by
  cases e with
  | real x => exact (Column.holdsReal_of_real fits).newline_not_mem
  | whole i => exact Column.newline_not_mem_whole fits
  | count n => exact Column.newline_not_mem_whole (whole_of_count fits)

def fields (o : Options) (c : Card) : List (List Char) :=
  (c.entries o).map fun e => e.column.getD []

def tooWide? (o : Options) (c : Card) : Option TooWide :=
  ((c.entries o).find? fun e => e.column.isNone).map fun e => ⟨c, e.text⟩

theorem none_too_wide_iff {o : Options} {c : Card} :
    c.tooWide? o = none ↔ ∀ e ∈ c.entries o, e.column ≠ none := by
  simp [tooWide?]

theorem foldlM_column (c : Card) (entries : List Entry) (start : List Char) :
    entries.foldlM (fun content entry =>
      match entry.column with
      | some field => Except.ok (content ++ field)
      | none => Except.error (TooWide.mk c entry.text)) start =
    ((entries.find? fun e => e.column.isNone).map fun e => TooWide.mk c e.text).elim
      (.ok (start ++ (entries.map fun e => e.column.getD []).flatten)) .error := by
  -- Each field goes behind what is there already, so the start is any text.
  induction entries generalizing start with
  | nil =>
    rw [List.map_nil, List.flatten_nil, List.append_nil]
    rfl
  | cons e entries ih =>
    rw [List.foldlM_cons]
    cases column : e.column with
    | none =>
      rw [List.find?_cons_of_pos (by simp [column])]
      rfl
    | some field =>
      rw [List.find?_cons_of_neg (by simp [column]), List.map_cons, column, List.flatten_cons,
        Option.getD_some, ← List.append_assoc]
      exact ih (start ++ field)

theorem render_eq (o : Options) (c : Card) :
    c.render o = (c.tooWide? o).elim (.ok (c.fields o).flatten) .error :=
  foldlM_column c (c.entries o) []

end Card

/-- The first number that its field cannot hold, in file order. -/
def Options.tooWide? (o : Options) : Option TooWide := Card.all.findSome? (Card.tooWide? o)

def Options.cardText (o : Options) : String :=
  Card.fileText (Card.all.map fun c => (c, (c.fields o).flatten))

namespace Card

theorem mapM_render (o : Options) (cards : List Card) :
    (cards.mapM fun c => return (c, ← c.render o) : Except TooWide (List (Card × List Char))) =
      (cards.findSome? (Card.tooWide? o)).elim
        (.ok (cards.map fun c => (c, (c.fields o).flatten))) .error := by
  induction cards with
  | nil => rfl
  | cons c cards ih =>
    rw [List.mapM_cons, ih, render_eq, List.findSome?_cons]
    cases c.tooWide? o with
    | some t => rfl
    | none => cases cards.findSome? (Card.tooWide? o) <;> rfl

end Card

namespace Options

theorem cards_result (o : Options) : o.cards.result = o.tooWide?.elim (.ok o.cardText) .error := by
  have rendered : Card.renderAll o = o.tooWide?.elim
      (.ok (Card.all.map fun c => (c, (c.fields o).flatten))) .error := Card.mapM_render o Card.all
  rw [cards, rendered]
  cases o.tooWide? <;> rfl

theorem none_too_wide_iff {o : Options} :
    o.tooWide? = none ↔ ∀ c : Card, ∀ e ∈ c.entries o, e.column ≠ none := by
  simp only [tooWide?, List.findSome?_eq_none_iff, Card.none_too_wide_iff, Card.mem_all,
    true_implies]

theorem cards_result_eq_ok_iff {o : Options} {text : String} :
    o.cards.result = .ok text ↔ o.tooWide? = none ∧ text = o.cardText := by
  rw [cards_result]
  cases o.tooWide? with
  | none => simp [eq_comm]
  | some t => simp

end Options

namespace Card

def written (o : Options) (c : Card) : List Char :=
  Column.keyword c.keyword.toList ++ (c.fields o).flatten

def lineOf (text : String) (c : Card) : List Char :=
  ((Text.split '\n' text.toList)[all.idxOf c]?).getD []

theorem chars_of_written (o : Options) :
    o.cardText.toList = all.flatMap fun c => c.written o ++ ['\n'] := by
  simp only [Options.cardText, fileText, String.toList_ofList, List.flatMap_map, line, written]

theorem length_keyword (c : Card) : (Column.keyword c.keyword.toList).length = 16 := by
  cases c <;> rfl

section Fit

variable {o : Options}

theorem exists_column_of_mem_fields (fit : o.tooWide? = none) {c : Card} {field : List Char}
    (member : field ∈ c.fields o) : ∃ e ∈ c.entries o, e.column = some field := by
  rcases List.mem_map.mp member with ⟨e, listed, rfl⟩
  obtain ⟨field, column⟩ := Option.ne_none_iff_exists'.mp
    (Options.none_too_wide_iff.mp fit c e listed)
  exact ⟨e, listed, by rw [column, Option.getD_some]⟩

theorem length_of_mem_fields (fit : o.tooWide? = none) {c : Card} :
    ∀ field ∈ c.fields o, field.length = Column.fieldWidth := by
  intro field member
  obtain ⟨e, -, column⟩ := exists_column_of_mem_fields fit member
  exact Entry.length_column column

theorem newline_not_mem_written (fit : o.tooWide? = none) (c : Card) : '\n' ∉ c.written o := by
  have keyword : '\n' ∉ Column.keyword c.keyword.toList := by cases c <;> decide
  rw [written, List.mem_append, List.mem_flatten]
  rintro (member | ⟨field, listed, member⟩)
  · exact keyword member
  · obtain ⟨e, -, column⟩ := exists_column_of_mem_fields fit listed
    exact Entry.newline_not_mem_column column member

theorem line_of_written (fit : o.tooWide? = none) (c : Card) : lineOf o.cardText c = c.written o := by
  rw [lineOf, chars_of_written, Text.split_flatMap _ fun c _ => newline_not_mem_written fit c,
    List.getElem?_append_left]
  · rw [List.getElem?_map, getElem?_all, Option.map_some, Option.getD_some]
  · rw [List.length_map]
    exact List.idxOf_lt_length_of_mem (mem_all c)

theorem length_written (fit : o.tooWide? = none) (c : Card) :
    (c.written o).length = 16 + if c = nstat then 16 else 8 := by
  rw [written, List.length_append, length_keyword,
    Column.length_flatten_fields (length_of_mem_fields fit)]
  cases c <;> rfl

/-- What a field behind the keyword holds is what its number is written as. -/
theorem column_lineOf (fit : o.tooWide? = none) {c : Card} {k : Nat} {e : Entry}
    (listed : (c.entries o)[k]? = some e) :
    e.column = some (Column.field k (lineOf o.cardText c)) := by
  obtain ⟨field, column⟩ := Option.ne_none_iff_exists'.mp
    (Options.none_too_wide_iff.mp fit c e (List.mem_of_getElem? listed))
  rw [line_of_written fit, written,
    Column.field_of_fields (length_keyword c) (length_of_mem_fields fit), fields, List.getElem?_map,
    listed, Option.map_some, Option.getD_some, column, Option.getD_some]

end Fit

/-- A text of one line for each card: its keyword in the first 16 columns, behind it nothing but
fields, and in each field for an energy one number with its point. -/
structure Ruled (text : String) : Prop where
  lines : text.toList = all.flatMap fun c => lineOf text c ++ ['\n']
  single : ∀ c, '\n' ∉ lineOf text c
  keyword : ∀ c : Card, (lineOf text c).take 16 = c.keyword.toList.rightpad 16 ' '
  length : ∀ c, (lineOf text c).length = 16 + if c = nstat then 16 else 8
  energies : ∀ c ∈ [deltae, demin, neutrlcut], Column.HoldsReal (Column.field 0 (lineOf text c))

theorem ruled_cardText {o : Options} (fit : o.tooWide? = none) : Ruled o.cardText where
  lines := by simp only [line_of_written fit, chars_of_written]
  single c := line_of_written fit c ▸ newline_not_mem_written fit c
  keyword c := by
    rw [line_of_written fit, written, ← length_keyword c, List.take_left]
    cases c <;> rfl
  length c := line_of_written fit c ▸ length_written fit c
  energies c energy := by
    have real : ∃ x, (c.entries o)[0]? = some (.real x) := by
      cases c <;> first | exact ⟨_, rfl⟩ | simp at energy
    obtain ⟨x, listed⟩ := real
    exact Column.holdsReal_of_real (column_lineOf fit listed)

structure Reading where
  antiparticleCorrectionOn : Bool
  fastNeutronTransportOn : Bool
  nuclearCorrectionOn : Bool
  scatteringType : Scattering
  energyStraggling : Straggling
  numberOfGeneratedParticles : UInt64
  checkpointInterval : Int
  deriving DecidableEq

section Decode

def switch? : Int → Option Bool
  | 0 => some false
  | 1 => some true
  | _ => none

def scattering? : Int → Option Scattering
  | 1 => some .gaussian
  | 2 => some .moliere
  | _ => none

def straggling? : Int → Option Straggling
  | 1 => some .gaussian
  | 2 => some .vavilov
  | _ => none

def count? (i : Int) : Option UInt64 :=
  if 0 ≤ i ∧ i < UInt64.size then some (UInt64.ofNat i.toNat) else none

def number? (text : String) (c : Card) (k : Nat) : Option Int :=
  Column.whole? (Column.field k (lineOf text c))

/-- Cuts the lines of a text at their columns and reads the numbers that are not energies. -/
def read? (text : String) : Option Reading := do
  let antiparticleCorrectionOn ← (number? text apcorr 0).bind switch?
  let fastNeutronTransportOn ← (number? text neutrfast 0).bind switch?
  let nuclearCorrectionOn ← (number? text nucre 0).bind switch?
  let scatteringType ← (number? text mscat 0).bind scattering?
  let energyStraggling ← (number? text stragg 0).bind straggling?
  let numberOfGeneratedParticles ← (number? text nstat 0).bind count?
  let checkpointInterval ← number? text nstat 1
  return ⟨antiparticleCorrectionOn, fastNeutronTransportOn, nuclearCorrectionOn, scatteringType,
    energyStraggling, numberOfGeneratedParticles, checkpointInterval⟩

/-- Whatever field the entry has, it is that of a number which a reader takes for the value. -/
def Entry.Encodes {α : Type} (e : Entry) (code : Int → Option α) (a : α) : Prop :=
  ∀ field, e.column = some field → ∃ i, Column.whole i = some field ∧ code i = some a

theorem Entry.encodes_whole {α : Type} {code : Int → Option α} {a : α} {i : Int} (decodes : code i = some a) :
    (Entry.whole i).Encodes code a :=
  fun _ column => ⟨i, column, decodes⟩

theorem switch_encodes (on : Bool) : (switch on).Encodes switch? on := by
  cases on with
  | false => exact Entry.encodes_whole rfl
  | true => exact Entry.encodes_whole rfl

theorem scattering_encodes (s : Scattering) : (scattering s).Encodes scattering? s := by
  cases s with
  | gaussian => exact Entry.encodes_whole rfl
  | moliere => exact Entry.encodes_whole rfl

theorem straggling_encodes (s : Straggling) : (straggling s).Encodes straggling? s := by
  cases s with
  | gaussian => exact Entry.encodes_whole rfl
  | vavilov => exact Entry.encodes_whole rfl

theorem count_encodes (n : UInt64) : (Entry.count n).Encodes count? n := by
  have small : n.toNat < UInt64.size := n.toNat_lt_size
  have range : 0 ≤ (n.toNat : Int) ∧ (n.toNat : Int) < UInt64.size := by omega
  intro field column
  refine ⟨n.toNat, Entry.whole_of_count column, ?_⟩
  rw [count?, if_pos range, Int.toNat_natCast, UInt64.ofNat_toNat]

theorem decode_written {o : Options} (fit : o.tooWide? = none) (c : Card) (k : Nat)
    {α : Type} {code : Int → Option α} {a : α} {e : Entry} (encodes : e.Encodes code a)
    (listed : (c.entries o)[k]? = some e) :
    (number? o.cardText c k).bind code = some a := by
  obtain ⟨i, column, decodes⟩ := encodes _ (column_lineOf fit listed)
  rw [number?, Column.whole_read_back column, Option.bind_some, decodes]

theorem number_written {o : Options} (fit : o.tooWide? = none) {c : Card} {k : Nat} {e : Entry} {i : Int}
    (encodes : e.Encodes some i) (listed : (c.entries o)[k]? = some e) :
    number? o.cardText c k = some i := by
  rw [← Option.bind_fun_some (number? o.cardText c k)]
  exact decode_written fit c k encodes listed

end Decode

end Card

/-- What of the options a file of cards tells; there is no checkpoint. -/
def Options.reading (o : Options) : Card.Reading where
  antiparticleCorrectionOn := o.antiparticleCorrectionOn
  fastNeutronTransportOn := o.fastNeutronTransportOn
  nuclearCorrectionOn := o.nuclearCorrectionOn
  scatteringType := o.scatteringType
  energyStraggling := o.energyStraggling
  numberOfGeneratedParticles := o.numberOfGeneratedParticles
  checkpointInterval := -1

theorem Card.read_written {o : Options} (fit : o.tooWide? = none) :
    Card.read? o.cardText = some o.reading := by
  have antiparticle := decode_written fit apcorr 0 (switch_encodes o.antiparticleCorrectionOn) rfl
  have fast := decode_written fit neutrfast 0 (switch_encodes o.fastNeutronTransportOn) rfl
  have nuclear := decode_written fit nucre 0 (switch_encodes o.nuclearCorrectionOn) rfl
  have scattering := decode_written fit mscat 0 (scattering_encodes o.scatteringType) rfl
  have straggling := decode_written fit stragg 0 (straggling_encodes o.energyStraggling) rfl
  have count := decode_written fit nstat 0 (count_encodes o.numberOfGeneratedParticles) rfl
  have checkpoint : number? o.cardText nstat 1 = some (-1) :=
    number_written fit (Entry.encodes_whole rfl) rfl
  simp only [read?, antiparticle, fast, nuclear, scattering, straggling, count, checkpoint,
    Option.bind_eq_bind, Option.bind_some, Option.pure_def]
  rfl

/-- Cards stand in their columns and tell all that they are made of but the energies; what is not
recorded on a card leaves no trace. -/
theorem Options.cards_read_back :
    (∀ (o : Options) (text : String), o.cards.result = .ok text →
      Card.Ruled text ∧ Card.read? text = some o.reading) ∧
    ∀ (o : Options) (recorded : Bool) (particles : UInt64),
      ({ o with recordSecondaryNeutronCreation := recorded,
                numberOfRecordedParticles := particles } : Options).cards = o.cards := by
  constructor
  · intro o text done
    obtain ⟨fit, rfl⟩ := cards_result_eq_ok_iff.mp done
    exact ⟨Card.ruled_cardText fit, Card.read_written fit⟩
  · intro o recorded particles
    rfl

/-- Options unlike the built-in ones on every card, with as many particles as fit. -/
def Options.contrary : Options where
  antiparticleCorrectionOn := true
  nuclearCorrectionOn := false
  meanEnergyLoss := .ofNat 1250
  minEnergyLoss := .ofRatio false 1 10
  scatteringType := .gaussian
  energyStraggling := .gaussian
  fastNeutronTransportOn := false
  lowEnergyNeutronCutOff := .ofRatio true 1 3
  recordSecondaryNeutronCreation := true
  numberOfGeneratedParticles := 99999999
  numberOfRecordedParticles := 7

def Options.contraryCards : String :=
  "APCORR                 1\n" ++
  "DELTAE              12.5\n" ++
  "DEMIN                0.1\n" ++
  "MSCAT                  1\n" ++
  "NEUTRFAST              0\n" ++
  "NEUTRLCUT       -0.33333\n" ++
  "NSTAT           99999999      -1\n" ++
  "NUCRE                  0\n" ++
  "STRAGG                 1\n"

theorem Options.cards_read_back_contrary :
    Options.contrary.cards.result = .ok contraryCards ∧ Card.Ruled contraryCards ∧
      Card.read? contraryCards =
        some ⟨true, false, false, .gaussian, .gaussian, 99999999, -1⟩ := by
  have fit : Options.contrary.tooWide? = none := by decide +kernel
  have written : contraryCards = Options.contrary.cardText := by decide +kernel
  have done := cards_result_eq_ok_iff.mpr ⟨fit, written⟩
  exact ⟨done, cards_read_back.1 Options.contrary contraryCards done⟩

end BeamRun
