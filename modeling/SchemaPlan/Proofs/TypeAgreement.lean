import Mathlib.Data.Set.Insert
import SchemaPlan.Proofs.CanonicalName

/-!
# When a declared kind stands for a live type

A kind is compared with a live type in two steps, each type read as seen from
the other, and then looked up in a table of pairs that are stored alike. What
comes out depends only on the two canonical names (`TypeName.agrees_iff`): they
are equal, or they are `datetime` and `timestamp`, or the pair is in the table.

The two steps by themselves compare any two texts, and although the second one
reads a text that the first has made, they treat both sides alike
(`TypeName.alike_is_exact`). What they find equal and would not find equal without
looking at the other side is `datetime` and `timestamp`.

Agreement is looser than being stored alike. A column of a kind is stored as
`TypeName.storage`, and a live type with which the kind agrees may have another
canonical name. There are five such pairs, `TypeName.standIns`, and
`TypeName.agrees_iff_storage` says that there are no more.
-/

namespace SchemaPlan.TypeName

variable {a b live x y z : String} {kind : ColumnKind}

/-! ## Names reported for each other -/

/-- Two canonical names that databases report for each other. There is only
this pair, in either order, and no name is its own counterpart. -/
def Counterparts (x y : String) : Prop :=
  x = "datetime" ∧ y = "timestamp" ∨ x = "timestamp" ∧ y = "datetime"

instance (x y : String) : Decidable (Counterparts x y) :=
  inferInstanceAs (Decidable (_ ∨ _))

theorem Counterparts.symm (h : Counterparts x y) : Counterparts y x :=
  (Or.symm h).imp And.symm And.symm

theorem Counterparts.ne (h : Counterparts x y) : x ≠ y := by
  intro same
  cases h with
  | inl names => exact absurd (names.1.symm.trans (same.trans names.2)) (by decide)
  | inr names => exact absurd (names.1.symm.trans (same.trans names.2)) (by decide)

/-- Both counterparts are canonical. -/
theorem Counterparts.canonical_eq (h : Counterparts x y) : canonical y = y := by
  cases h with
  | inl names => exact (canonical_of_known (by rw [names.2]; decide)).2
  | inr names => exact (canonical_of_known (by rw [names.2]; decide)).2

/-- The table of names that are reported for each other holds the
counterparts. -/
theorem find?_reportedFor (x y : String) :
    ((reportedFor.find? fun row => row.1 == x && row.2.1 == y).map fun row => row.2.2) =
      if Counterparts x y then some y else none := by
  by_cases pair : Counterparts x y
  · rw [if_pos pair]
    cases pair with
    | inl names => rw [names.1, names.2]; rfl
    | inr names => rw [names.1, names.2]; rfl
  · rw [if_neg pair, Option.map_eq_none_iff, List.find?_eq_none]
    intro row hr found
    rw [Bool.and_eq_true, beq_iff_eq, beq_iff_eq] at found
    simp only [reportedFor, List.mem_cons, List.not_mem_nil, or_false] at hr
    refine pair (hr.imp ?_ ?_)
    · intro here; rw [← found.1, ← found.2, here]; exact ⟨rfl, rfl⟩
    · intro here; rw [← found.1, ← found.2, here]; exact ⟨rfl, rfl⟩

/-! ## Reading a type as seen from another -/

/-- A type is read by its canonical name, unless that of the other side is its
counterpart and takes its place. -/
theorem normalize_eq (a b : String) :
    normalize a (some b) =
      if Counterparts (canonical a) (canonical b) then canonical b else canonical a := by
  have table := find?_reportedFor (canonical a) (canonical b)
  unfold normalize
  generalize canonical a = x at table ⊢
  simp only
  generalize canonical b = y at table ⊢
  cases hf : reportedFor.find? fun row => row.1 == x && row.2.1 == y with
  | some row =>
    rw [hf, Option.map_some] at table
    by_cases pair : Counterparts x y
    · rw [if_pos pair] at table ⊢
      exact Option.some.inj table
    · rw [if_neg pair] at table
      cases table
  | none =>
    rw [hf, Option.map_none] at table
    by_cases pair : Counterparts x y
    · rw [if_pos pair] at table
      cases table
    · rw [if_neg pair]

/-- What is left of the comparison once both types are read: `x` and `y` are the
canonical names, and `z` is that of what the first one became. -/
theorem ite_counterparts_eq_iff (hz : z = canonical (if Counterparts x y then y else x)) :
    (if Counterparts x y then y else x) = (if Counterparts y z then z else y) ↔
      x = y ∨ Counterparts x y := by
  by_cases pair : Counterparts x y
  · -- the first type has become the second, which is canonical already
    rw [if_pos pair] at hz ⊢
    rw [hz, pair.canonical_eq, if_neg fun self => self.ne rfl]
    exact iff_of_true rfl (.inr pair)
  · rw [if_neg pair] at hz ⊢
    rw [or_iff_left pair]
    by_cases back : Counterparts y z
    · -- `y` is one of the two names, so `x` is neither it nor its counterpart
      rw [if_pos back]
      constructor
      · intro same
        exact absurd (same ▸ back).symm pair
      · intro same
        rw [hz, same]
        exact (back.symm.canonical_eq).symm
    · rw [if_neg back]

/-- **Two types, each read as seen from the other, are equal just when their
canonical names are equal or counterparts.** -/
theorem normalize_eq_normalize_iff :
    normalize a (some b) = normalize b (some (normalize a (some b))) ↔
      canonical a = canonical b ∨ Counterparts (canonical a) (canonical b) := by
  rw [normalize_eq b, normalize_eq a]
  exact ite_counterparts_eq_iff rfl

/-! ## Comparing any two types -/

/-- **Two types are alike**: the first, as seen from the second, is the second, as
seen from what the first has become. -/
def Alike (a b : String) : Prop :=
  normalize a (some b) = normalize b (some (normalize a (some b)))

/-- The two names that databases report for each other, as a set. -/
theorem pair_eq_iff_counterparts :
    ({x, y} : Set String) = {"datetime", "timestamp"} ↔ Counterparts x y :=
  Set.pair_eq_pair_iff

theorem Alike.symm (h : Alike a b) : Alike b a :=
  normalize_eq_normalize_iff.2
    ((normalize_eq_normalize_iff.1 h).imp Eq.symm Counterparts.symm)

/-- Types that are alike differ by themselves just when they are counterparts. -/
theorem alike_and_ne_iff : Alike a b ∧ normalize a none ≠ normalize b none ↔
    Counterparts (canonical a) (canonical b) := by
  show Alike a b ∧ canonical a ≠ canonical b ↔ _
  rw [Alike, normalize_eq_normalize_iff]
  constructor
  · rintro ⟨same | pair, different⟩
    · exact absurd same different
    · exact pair
  · intro pair
    exact ⟨.inr pair, pair.ne⟩

/-- **The comparison is exact, and the same from both sides.** Two texts are alike
just when they have one canonical name, or when their names are the two for times;
it does not matter which text is read first; and those two names are all that
reading a text as seen from the other makes equal. -/
theorem alike_is_exact (a b : String) :
    (Alike a b ↔ canonical a = canonical b ∨
      ({canonical a, canonical b} : Set String) = {"datetime", "timestamp"}) ∧
    (Alike a b ↔ Alike b a) ∧
    (Alike a b ∧ normalize a none ≠ normalize b none ↔
      ({canonical a, canonical b} : Set String) = {"datetime", "timestamp"}) := by
  rw [pair_eq_iff_counterparts]
  exact ⟨normalize_eq_normalize_iff, ⟨Alike.symm, Alike.symm⟩, alike_and_ne_iff⟩

/-- A canonical name need not be canonical, for only one closing `unsigned` is taken off
at a time. So the second side can be given the name of a first side that is not its
counterpart, and still the two are not alike. -/
example : normalize "datetime unsigned unsigned" (some "timestamp") = "datetime unsigned" ∧
    normalize "timestamp" (some "datetime unsigned") = "datetime" ∧
    ¬ Alike "datetime unsigned unsigned" "timestamp" := by
  unfold Alike
  decide +kernel

/-! ## Agreement -/

/-- **A kind agrees with a live type just when their canonical names are equal
or counterparts, or the live name is known to be stored for the kind.** -/
theorem agrees_iff : agrees kind live = true ↔
    canonical live = canonical kind.name ∨ Counterparts (canonical live) (canonical kind.name) ∨
      isCompatible kind.name (canonical live) = true := by
  unfold agrees
  rw [Bool.or_eq_true, beq_iff_eq, normalize_eq_normalize_iff, or_assoc]
  by_cases pair : Counterparts (canonical live) (canonical kind.name)
  · exact iff_of_true (.inr (.inl pair)) (.inr (.inl pair))
  · rw [normalize_eq live, if_neg pair]

/-- The kinds and the canonical names of live types that agree although a
column of the kind is stored under another name. -/
def standIns : List (ColumnKind × String) :=
  [(.boolean, "tinyint"), (.dateTime, "timestamp"), (.timestamp, "datetime"),
   (.foreignId, "foreignid"), (.foreignUuid, "foreignuuid")]

/-- The canonical names of the live types that the kind agrees with. -/
def agreed (kind : ColumnKind) : List String :=
  canonical kind.name ::
    ((reportedFor.filter fun row => row.2.1 == canonical kind.name).map (·.1) ++
      ((referenceStorage ++ looseEquivalents).filter fun row =>
        row.1 == Text.lower kind.name).map (·.2))

theorem mem_agreed_iff : x ∈ agreed kind ↔
    x = canonical kind.name ∨ Counterparts x (canonical kind.name) ∨
      isCompatible kind.name x = true := by
  unfold agreed
  generalize canonical kind.name = y
  rw [List.mem_cons, List.mem_append]
  refine or_congr_right (or_congr ?_ ?_)
  · simp only [List.mem_map, List.mem_filter, reportedFor, Counterparts, List.mem_cons,
      List.not_mem_nil, or_false, beq_iff_eq, or_and_right, exists_or, and_assoc,
      exists_eq_left, @eq_comm _ _ x, @eq_comm _ _ y]
    exact or_congr and_comm and_comm
  · simp [isCompatible]

/-- A kind is called by one word. -/
@[simp] theorem nameWords_kind (kind : ColumnKind) :
    nameWords kind.name = [Text.lower kind.name] := by
  have letters : kind.name ≠ "" ∧ Text.Consists (fun c => c.isAlpha = true) kind.name := by
    cases kind <;> decide +kernel
  exact nameWords_of_letters letters.1 letters.2

@[simp] theorem plain_kind (kind : ColumnKind) : plain kind.name = Text.lower kind.name := by
  rw [plain, ← nameWords, nameWords_kind]
  exact String.intercalate_singleton

/-- A kind agrees with the type its columns are stored as and with those it
stands in for, and with no other: the three tables say so row by row. -/
theorem agreed_table (kind : ColumnKind) :
    agreed kind ⊆ storage kind :: (standIns.filter (·.1 = kind)).map (·.2) ∧
      storage kind :: (standIns.filter (·.1 = kind)).map (·.2) ⊆ agreed kind := by
  unfold agreed storage
  dsimp only
  rw [canonical_eq, plain_kind]
  cases kind <;> decide +kernel

/-- **A kind agrees with the type its columns are stored as and with those it
stands in for, and with no other.** -/
theorem agrees_iff_storage : agrees kind live = true ↔
    canonical live = storage kind ∨ (kind, canonical live) ∈ standIns := by
  have stored : canonical live = storage kind ∨ (kind, canonical live) ∈ standIns ↔
      canonical live ∈ storage kind :: (standIns.filter (·.1 = kind)).map (·.2) := by
    generalize canonical live = x
    simp
  rw [agrees_iff, ← mem_agreed_iff, stored]
  exact ⟨fun h => (agreed_table kind).1 h, fun h => (agreed_table kind).2 h⟩

/-- A kind does not stand in for the type its columns are stored as. -/
theorem ne_storage_of_mem_standIns (h : (kind, x) ∈ standIns) : x ≠ storage kind := by
  have all : ∀ pair ∈ standIns, pair.2 ≠ storage pair.1 := by decide +kernel
  exact all _ h

end SchemaPlan.TypeName
