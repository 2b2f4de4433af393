import BeamRun.Proofs.Binary64
import BeamRun.Proofs.Catalogue
import BeamRun.Validation

namespace BeamRun

namespace Domain

def kind : Domain → Json.Kind
  | flag => .boolean
  | amount => .number
  | number => .number
  | count => .number
  | scattering => .string
  | straggling => .string

inductive Denotes : (d : Domain) → Json → d.Value → Prop
  | flag (b : Bool) : Denotes .flag (.bool b) b
  | amount (n : Number) (nonnegative : Binary64.zero ≤ n.toBinary64) :
      Denotes .amount (.number n) n.toBinary64
  | number (n : Number) : Denotes .number (.number n) n.toBinary64
  | count (n : WholeNumber) (c : UInt64) (positive : 1 ≤ n.val) (same : (c.toNat : Int) = n.val) :
      Denotes .count (.number (.whole n)) c
  | scattering (s : Scattering) : Denotes .scattering (.string s.name) s
  | straggling (s : Straggling) : Denotes .straggling (.string s.name) s

/-- What keeps a JSON value from standing for anything in the domain. -/
inductive Refuses : Domain → Json → Misfit → Prop
  | mistyped {d : Domain} {v : Json} (other : v.kind ≠ d.kind) : Refuses d v (.mistyped v.kind)
  | fractional (x : FiniteNumber) : Refuses .count (.number (.real x)) (.fractional x)
  | negative (n : Number) (below : ¬ Binary64.zero ≤ n.toBinary64) :
      Refuses .amount (.number n) (.negative n.toBinary64)
  | belowOne (n : WholeNumber) (below : n.val < 1) :
      Refuses .count (.number (.whole n)) (.belowOne n.val)
  | scattering {literal : String} (unlisted : ∀ s : Scattering, s.name ≠ literal) :
      Refuses .scattering (.string literal) (.unlisted literal)
  | straggling {literal : String} (unlisted : ∀ s : Straggling, s.name ≠ literal) :
      Refuses .straggling (.string literal) (.unlisted literal)

theorem read_of_denotes {d : Domain} {v : Json} {x : d.Value} (h : Denotes d v x) :
    d.read v = .ok x := by
  cases h with
  | flag b => rfl
  | amount n nonnegative => simp [read, nonnegative]
  | number n => rfl
  | count n c positive same =>
    have back : UInt64.ofNat n.val.toNat = c := by
      rw [← same, Int.toNat_natCast, UInt64.ofNat_toNat]
    simp [read, positive, back]
  | scattering s => simp [read, (Scattering.of_name_iff _ s).mpr rfl]
  | straggling s => simp [read, (Straggling.of_name_iff _ s).mpr rfl]

theorem read_of_refuses {d : Domain} {v : Json} {cause : Misfit} (h : Refuses d v cause) :
    d.read v = .error cause := by
  cases h with
  | mistyped other => cases d <;> cases v <;> first | rfl | exact absurd rfl other
  | fractional x => rfl
  | negative n below => simp [read, below]
  | belowOne n below => simp [read, Int.not_le.mpr below]
  | @scattering literal unlisted =>
    have missed : Scattering.ofName? literal = none := by
      simpa [Option.eq_none_iff_forall_ne_some, Scattering.of_name_iff] using unlisted
    simp [read, missed]
  | @straggling literal unlisted =>
    have missed : Straggling.ofName? literal = none := by
      simpa [Option.eq_none_iff_forall_ne_some, Straggling.of_name_iff] using unlisted
    simp [read, missed]

private theorem count_or_belowOne (n : WholeNumber) :
    (∃ c, Denotes .count (.number (.whole n)) c) ∨
      ∃ cause, Refuses .count (.number (.whole n)) cause := by
  by_cases positive : 1 ≤ n.val
  · have bound : n.val.toNat < UInt64.size := (Int.toNat_lt (by omega)).mpr n.property.2
    have same : ((UInt64.ofNat n.val.toNat).toNat : Int) = n.val := by
      rw [UInt64.toNat_ofNat_of_lt' bound]
      omega
    exact .inl ⟨_, .count n _ positive same⟩
  · exact .inr ⟨_, .belowOne n (Int.not_le.mp positive)⟩

theorem denotes_or_refuses (d : Domain) (v : Json) :
    (∃ x, Denotes d v x) ∨ ∃ cause, Refuses d v cause := by
  by_cases typed : v.kind = d.kind
  case neg => exact .inr ⟨_, .mistyped typed⟩
  cases d with
  | flag =>
    cases v with
    | bool b => exact .inl ⟨b, .flag b⟩
    | _ => cases typed
  | amount =>
    cases v with
    | number n =>
      by_cases nonnegative : Binary64.zero ≤ n.toBinary64
      · exact .inl ⟨_, .amount n nonnegative⟩
      · exact .inr ⟨_, .negative n nonnegative⟩
    | _ => cases typed
  | number =>
    cases v with
    | number n => exact .inl ⟨_, .number n⟩
    | _ => cases typed
  | count =>
    cases v with
    | number n =>
      cases n with
      | real x => exact .inr ⟨_, .fractional x⟩
      | whole n => exact count_or_belowOne n
    | _ => cases typed
  | scattering =>
    cases v with
    | string literal =>
      by_cases listed : ∃ s : Scattering, s.name = literal
      · rcases listed with ⟨s, rfl⟩
        exact .inl ⟨s, .scattering s⟩
      · exact .inr ⟨_, .scattering fun s same => listed ⟨s, same⟩⟩
    | _ => cases typed
  | straggling =>
    cases v with
    | string literal =>
      by_cases listed : ∃ s : Straggling, s.name = literal
      · rcases listed with ⟨s, rfl⟩
        exact .inl ⟨s, .straggling s⟩
      · exact .inr ⟨_, .straggling fun s same => listed ⟨s, same⟩⟩
    | _ => cases typed

theorem read_eq_ok_iff (d : Domain) (v : Json) (x : d.Value) :
    d.read v = .ok x ↔ Denotes d v x := by
  constructor
  · intro h
    rcases denotes_or_refuses d v with ⟨y, denotes⟩ | ⟨cause, refuses⟩
    · rw [read_of_denotes denotes] at h
      cases h
      exact denotes
    · rw [read_of_refuses refuses] at h
      cases h
  · exact read_of_denotes

theorem read_eq_error_iff (d : Domain) (v : Json) (cause : Misfit) :
    d.read v = .error cause ↔ Refuses d v cause := by
  constructor
  · intro h
    rcases denotes_or_refuses d v with ⟨x, denotes⟩ | ⟨other, refuses⟩
    · rw [read_of_denotes denotes] at h
      cases h
    · rw [read_of_refuses refuses] at h
      cases h
      exact refuses
  · exact read_of_refuses

theorem denotes_unique {d : Domain} {v : Json} {x y : d.Value}
    (first : Denotes d v x) (second : Denotes d v y) : x = y :=
  Except.ok.inj ((read_of_denotes first).symm.trans (read_of_denotes second))

/-- The values that something denotes: finite numbers, amounts from zero and counts from one up. -/
def Proper : (d : Domain) → d.Value → Prop
  | flag, _ => True
  | amount, x => x.isFinite = true ∧ Binary64.zero ≤ x
  | number, x => x.isFinite = true
  | count, n => 1 ≤ n
  | scattering, _ => True
  | straggling, _ => True

theorem proper_of_denotes {d : Domain} {v : Json} {x : d.Value} (h : Denotes d v x) :
    d.Proper x := by
  cases h with
  | flag b => trivial
  | amount n nonnegative => exact ⟨n.isFinite_toBinary64, nonnegative⟩
  | number n => exact n.isFinite_toBinary64
  | count n c positive same =>
    refine UInt64.le_iff_toNat_le.mpr ?_
    rw [UInt64.toNat_one]
    omega
  | scattering s => trivial
  | straggling s => trivial

theorem eq_of_denotes_encode {d : Domain} {x y : d.Value} (h : Denotes d (d.encode x) y) :
    y = x := by
  cases d with
  | flag => cases h; rfl
  | amount =>
    simp only [encode, Json.ofBinary64] at h
    split at h
    · cases h; rfl
    · cases h
  | number =>
    simp only [encode, Json.ofBinary64] at h
    split at h
    · cases h; rfl
    · cases h
  | count =>
    cases h with
    | count _ _ _ same => exact UInt64.toNat_inj.mp (Int.ofNat_inj.mp same)
  | scattering => exact denotes_unique h (.scattering x)
  | straggling => exact denotes_unique h (.straggling x)

theorem denotes_encode {d : Domain} {x : d.Value} (proper : d.Proper x) :
    Denotes d (d.encode x) x := by
  cases d with
  | flag => exact .flag x
  | amount =>
    rcases proper with ⟨finite, nonnegative⟩
    rw [encode, Json.ofBinary64, dif_pos finite]
    exact .amount (.real ⟨x, finite⟩) nonnegative
  | number =>
    have finite : x.isFinite = true := proper
    rw [encode, Json.ofBinary64, dif_pos finite]
    exact .number (.real ⟨x, finite⟩)
  | count =>
    have positive : (1 : UInt64).toNat ≤ x.toNat := UInt64.le_iff_toNat_le.mp proper
    rw [UInt64.toNat_one] at positive
    exact .count _ x (by change 1 ≤ (x.toNat : Int); omega) rfl
  | scattering => exact .scattering x
  | straggling => exact .straggling x

end Domain
end BeamRun
