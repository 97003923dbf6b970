import SchemaPlan.Proofs.AlterationReplay
import SchemaPlan.Proofs.Rerun

/-!
# When the artifacts of a comparison are made, and what else is reported

The options of a column are checked while its specification is put together, those of all
columns while the bodies of the artifacts are, and between them the live types of columns
that are to be put back. What comes out of all these steps can be said without them: all
that is wrong with a comparison is a list, in the order new, modified, dropped columns, for
each column in the order of the options, and then its live type. Making the artifacts
succeeds if the list is empty, and stops with its first entry if it is not
(`emission_reports_the_first_fault`).

A computation that goes through such a list in this way `Reports` it. Two computations one
after the other report the two lists one after the other, so that the list of a whole is put
together from those of its parts.
-/

namespace SchemaPlan

/-! ## Reporting the first of several faults -/

section Reporting

variable {ε α β : Type}

/-- **A computation reports faults**: it has a result if there are none, and stops with the
first one else. -/
inductive Reports : Except ε α → List ε → Prop where
  /-- There is nothing wrong. -/
  | pure (a : α) : Reports (.ok a) []
  /-- Something is wrong, and perhaps more. -/
  | stop (fault : ε) (rest : List ε) : Reports (.error fault) (fault :: rest)

namespace Reports

variable {x : Except ε α} {f : α → Except ε β} {faults later : List ε}

/-- **Whether a computation has a result is read off its list of faults**, and
so is, by the next statement, the fault with which it stops. -/
theorem exists_ok_iff (h : Reports x faults) : (∃ a, x = .ok a) ↔ faults = [] := by
  cases h with
  | pure a => exact iff_of_true ⟨a, rfl⟩ rfl
  | stop fault rest => exact iff_of_false nofun nofun

/-- A computation stops with the first of its faults and with no other. -/
theorem error_iff (h : Reports x faults) {fault : ε} :
    x = .error fault ↔ faults.head? = some fault := by
  cases h with
  | pure a => exact iff_of_false nofun nofun
  | stop first rest => rw [List.head?_cons, Except.error.injEq, Option.some.injEq]

/-- Faults of a second computation come after those of the first. -/
theorem bind (first : Reports x faults) (second : ∀ a, x = .ok a → Reports (f a) later) :
    Reports (x >>= f) (faults ++ later) := by
  cases first with
  | pure a => exact second a rfl
  | stop fault rest => exact .stop fault (rest ++ later)

/-- What is done without a fault adds none. -/
theorem map (first : Reports x faults) (g : α → β) :
    Reports (x >>= fun a => Except.ok (g a)) faults := by
  cases first with
  | pure a => exact .pure (g a)
  | stop fault rest => exact .stop fault rest

/-- A look-up that fails is the only fault of what depends on it. -/
theorem lookUp {found : Option β} {p : Prop} [Decidable p] (h : found.isSome = true ↔ p)
    {fault : ε} (there : ∀ b, found = some b → ∃ a, x = .ok a)
    (missing : found = none → x = .error fault) : Reports x (if p then [] else [fault]) := by
  cases hf : found with
  | some b =>
    obtain ⟨a, rfl⟩ := there b hf
    rw [if_pos (h.1 (hf ▸ rfl))]
    exact .pure a
  | none =>
    rw [if_neg (mt h.2 (hf ▸ nofun)), missing hf]
    exact .stop fault []

/-- The faults of a list are those of its members, in order. -/
theorem mapM {g : α → Except ε β} {faultsOf : α → List ε} (h : ∀ a, Reports (g a) (faultsOf a))
    (l : List α) : Reports (l.mapM g) (l.flatMap faultsOf) := by
  induction l with
  | nil => exact Reports.pure []
  | cons a rest ih =>
    rw [List.mapM_cons, List.flatMap_cons]
    exact (h a).bind fun b _ => ih.map _

end Reports

end Reporting

/-! ## Numbers, actions and types -/

/-- **A text is a number up to a limit**: an optional plus sign and one or more digits. -/
def Text.IsNumber (limit : Nat) (text : String) : Prop :=
  ∃ sign digits, text.toList = sign ++ digits ∧ sign ∈ [[], ['+']] ∧ digits ≠ [] ∧
    (∀ c ∈ digits, c.isDigit = true) ∧ digitsValue digits ≤ limit

namespace Text

@[simp] theorem areDigits_iff {cs : List Char} :
    areDigits cs = true ↔ cs ≠ [] ∧ ∀ c ∈ cs, c.isDigit = true := by
  rw [areDigits, Bool.and_eq_true, Bool.not_eq_true', List.isEmpty_eq_false_iff, List.all_eq_true]

/-- The characters after a plus sign, if they begin with one. -/
def withoutPlus : List Char → List Char
  | '+' :: cs => cs
  | cs => cs

/-- The characters of a text are those after the sign with the sign in front,
if there is one. One sign is taken off, so of `++1` a plus sign is left, and
that is no number. -/
theorem exists_withoutPlus (cs : List Char) :
    ∃ sign, cs = sign ++ withoutPlus cs ∧ sign ∈ [[], ['+']] := by
  unfold withoutPlus
  split
  · exact ⟨['+'], rfl, by decide⟩
  · exact ⟨[], rfl, by decide⟩

/-- A sign in front of digits is taken off, and digits alone are left as they
are. -/
theorem withoutPlus_append {sign digits : List Char} (signs : sign ∈ [[], ['+']])
    (digit : ∀ c ∈ digits, c.isDigit = true) : withoutPlus (sign ++ digits) = digits := by
  rcases List.mem_pair.1 signs with rfl | rfl
  · rw [List.nil_append]
    unfold withoutPlus
    split
    · -- a plus sign is no digit
      exact absurd (digit '+' List.mem_cons_self) (by decide)
    · rfl
  · rfl

/-- **A number can be read exactly if the text is one up to the limit.** The
left side computes and the right side says what counts as a number: leading
zeros do no harm, and a sign is allowed if it is a plus. -/
theorem isSome_readNumber?_iff {limit : Nat} {text : String} :
    (readNumber? limit text).isSome = true ↔ IsNumber limit text := by
  have read : readNumber? limit text =
      if areDigits (withoutPlus text.toList) && digitsValue (withoutPlus text.toList) ≤ limit then
        some (digitsValue (withoutPlus text.toList))
      else none := rfl
  rw [read, Option.isSome_ite, Bool.and_eq_true, areDigits_iff, decide_eq_true_iff]
  constructor
  · rintro ⟨⟨nonempty, digit⟩, small⟩
    obtain ⟨sign, chars, signs⟩ := exists_withoutPlus text.toList
    exact ⟨sign, _, chars, signs, nonempty, digit, small⟩
  · rintro ⟨sign, digits, chars, signs, nonempty, digit, small⟩
    rw [chars, withoutPlus_append signs digit]
    exact ⟨⟨nonempty, digit⟩, small⟩

end Text

instance (limit : Nat) (text : String) : Decidable (Text.IsNumber limit text) :=
  decidable_of_iff _ Text.isSome_readNumber?_iff

namespace ReferentialAction

/-- The words for referential actions. -/
def words : List String :=
  ["noaction", "restrict", "cascade", "setnull", "null", "nullify", "setdefault"]

/-- **A text names a referential action**: its letters and digits are one of the words, in
either case. -/
def IsSpelled (text : String) : Prop :=
  key text ∈ words

instance (text : String) : Decidable (IsSpelled text) :=
  inferInstanceAs (Decidable (_ ∈ _))

/-- **An action can be read exactly if its letters and digits spell one of the
words**, whatever stands between them and in either case. -/
theorem isSome_ofText?_iff {text : String} : (ofText? text).isSome = true ↔ IsSpelled text := by
  unfold ofText? IsSpelled words
  split <;> simp_all

end ReferentialAction

/-- **A type is stored**: it is the one that columns of some kind are stored as. -/
def TypeName.IsStored (type : String) : Prop :=
  ∃ kind, storage kind = type

/-- A kind is found for a type exactly if some kind is stored as that type; the
search goes over all kinds. -/
theorem TypeName.isSome_kindStoredAs?_iff {type : String} :
    (kindStoredAs? type).isSome = true ↔ IsStored type := by
  rw [kindStoredAs?, List.find?_isSome]
  simp only [beq_iff_eq, ColumnKind.mem_all, true_and]
  rfl

instance (type : String) : Decidable (TypeName.IsStored type) :=
  decidable_of_iff _ TypeName.isSome_kindStoredAs?_iff

/-! ## The faults of a column -/

namespace ColumnDecl

/-- **The options of a column can be used.** -/
structure IsSound (column : ColumnDecl) : Prop where
  /-- A length is a number. -/
  length : ∀ text, column.value? "length" = some text → Text.IsNumber ColumnSpec.maxLength text
  /-- So are precision and scale of a decimal. -/
  digits : column.kind = .decimal → ∀ option ∈ ["precision", "scale"], ∀ text,
    column.value? option = some text → Text.IsNumber ColumnSpec.maxPrecision text
  /-- An enumeration has values. -/
  values : column.kind = .enum → ∃ items, column.list? "values" = some items ∧ items ≠ []
  /-- A default has a text. -/
  default : column.has "default" = true → ∃ text, column.value? "default" = some text
  /-- The actions of a column that refers to another table are named by words. -/
  actions : column.Refers → ∀ option ∈ ["onDelete", "onUpdate"], ∀ text,
    column.value? option = some text → ReferentialAction.IsSpelled text

instance (column : ColumnDecl) : Decidable column.Refers :=
  inferInstanceAs (Decidable (_ ∨ _ ∨ _))

variable (column : ColumnDecl)

/-- The fault of an option whose text, if it has one, is not as it has to be. -/
def textFaults (option : String) (holds : String → Prop) [DecidablePred holds]
    (problem : String → OptionProblem) : List Fault :=
  match column.value? option with
  | none => []
  | some text => if holds text then [] else [.invalidOption column.name option (problem text)]

/-- The fault of an option that has to be a number. -/
def numberFaults (option : String) (limit : Nat) : List Fault :=
  column.textFaults option (Text.IsNumber limit) .notANumber

/-- The fault of an option that has to name a referential action. -/
def actionFaults (option : String) : List Fault :=
  column.textFaults option ReferentialAction.IsSpelled .unknownAction

/-- The fault of an enumeration without values. -/
def valuesFaults : List Fault :=
  if column.kind = .enum ∧ (column.list? "values").getD [] = [] then
    [.invalidOption column.name "values" .missingValues]
  else
    []

/-- The fault of a default without a text. -/
def defaultFaults : List Fault :=
  if column.has "default" = true ∧ column.value? "default" = none then
    [.invalidOption column.name "default" .missingDefault]
  else
    []

/-- **All that is wrong with the options of a column**, in the order of the options. -/
def faults : List Fault :=
  column.numberFaults "length" ColumnSpec.maxLength ++
  ((if column.kind = .decimal then
      column.numberFaults "precision" ColumnSpec.maxPrecision ++
        column.numberFaults "scale" ColumnSpec.maxPrecision
    else []) ++
  (column.valuesFaults ++ (column.defaultFaults ++
  (if column.Refers then column.actionFaults "onDelete" ++ column.actionFaults "onUpdate"
    else []))))

variable {column}

/-- An option that has to be of some form has no fault if it has no text, or
one of that form. -/
theorem textFaults_eq_nil_iff {option : String} {holds : String → Prop} [DecidablePred holds]
    {problem : String → OptionProblem} :
    column.textFaults option holds problem = [] ↔
      ∀ text, column.value? option = some text → holds text := by
  unfold textFaults
  cases column.value? option with
  | none => exact iff_of_true rfl nofun
  | some text => by_cases fits : holds text <;> simp [fits]

/-- An option that is not there has no fault. -/
theorem numberFaults_of_absent {option : String} (absent : ¬ column.has option = true)
    (limit : Nat) : column.numberFaults option limit = [] := by
  refine textFaults_eq_nil_iff.2 fun text valued => absurd ?_ absent
  unfold value? at valued
  unfold has
  split at valued
  · rename_i found
    rw [found]
    rfl
  · cases valued

/-- The values have no fault unless an enumeration is declared without any. On
a column of another kind they may be missing. -/
theorem valuesFaults_eq_nil_iff : column.valuesFaults = [] ↔
    (column.kind = .enum → ∃ items, column.list? "values" = some items ∧ items ≠ []) := by
  unfold valuesFaults
  cases column.list? "values" with
  | none => simp
  | some items => simp

/-- A default has no fault if it is not there or has a text. A bare flag and a
list are not texts. -/
theorem defaultFaults_eq_nil_iff : column.defaultFaults = [] ↔
    (column.has "default" = true → ∃ text, column.value? "default" = some text) := by
  unfold defaultFaults
  cases column.value? "default" <;> simp

/-- A column has no faults just when its options can be used. -/
theorem faults_eq_nil_iff : column.faults = [] ↔ column.IsSound := by
  have pair {first second : String} {p : String → Prop} :
      (∀ option ∈ [first, second], p option) ↔ p first ∧ p second := by simp
  have guarded {p : Prop} [Decidable p] {l : List Fault} :
      (if p then l else []) = [] ↔ (p → l = []) := by
    split <;> simp_all
  unfold faults numberFaults actionFaults
  simp only [List.append_eq_nil_iff, guarded, textFaults_eq_nil_iff, valuesFaults_eq_nil_iff,
    defaultFaults_eq_nil_iff]
  constructor
  · rintro ⟨length, digits, values, default, actions⟩
    exact ⟨length, fun h => pair.2 (digits h), values, default, fun h => pair.2 (actions h)⟩
  · rintro ⟨length, digits, values, default, actions⟩
    exact ⟨length, fun h => pair.1 (digits h), values, default, fun h => pair.1 (actions h)⟩

end ColumnDecl

/-! ## What the specification of a column reports -/

namespace ColumnSpec

variable (column : ColumnDecl)

/-- The six statements that begin here go through the options of a column in
the order in which they are read. A number is read only where the option has a
text. -/
theorem reports_readNumber (option : String) (limit : Nat) :
    Reports (readNumber column option limit) (column.numberFaults option limit) := by
  unfold readNumber ColumnDecl.numberFaults ColumnDecl.textFaults
  cases column.value? option with
  | none => exact .pure none
  | some text =>
    dsimp only
    refine .lookUp Text.isSome_readNumber?_iff (fun n read => ?_) fun read => ?_
    · exact ⟨some n, by rw [read]⟩
    · rw [read]

theorem reports_readAction (option : String) :
    Reports (readAction column option) (column.actionFaults option) := by
  unfold readAction ColumnDecl.actionFaults ColumnDecl.textFaults
  cases column.value? option with
  | none => exact .pure none
  | some text =>
    dsimp only
    refine .lookUp ReferentialAction.isSome_ofText?_iff (fun action read => ?_) fun read => ?_
    · exact ⟨some action, by rw [read]⟩
    · rw [read]

/-- Precision and scale are looked at on decimals only, so nothing is wrong
with them elsewhere. -/
theorem reports_readPrecision : Reports (readPrecision column)
    (if column.kind = .decimal then
      column.numberFaults "precision" maxPrecision ++ column.numberFaults "scale" maxPrecision
    else []) := by
  unfold readPrecision
  by_cases decimal : column.kind = .decimal
  · rw [if_pos decimal]
    by_cases declared : column.has "precision" = true ∨ column.has "scale" = true
    · rw [if_pos (by simpa [decimal] using declared)]
      exact (reports_readNumber column "precision" maxPrecision).bind fun _ _ =>
        (reports_readNumber column "scale" maxPrecision).map _
    · obtain ⟨first, second⟩ := not_or.1 declared
      rw [if_neg (by simpa [decimal] using declared),
        ColumnDecl.numberFaults_of_absent first, ColumnDecl.numberFaults_of_absent second]
      exact .pure none
  · rw [if_neg decimal, if_neg (by simp [decimal])]
    exact .pure none

theorem reports_readValues : Reports (readValues column) column.valuesFaults := by
  unfold readValues ColumnDecl.valuesFaults
  by_cases enum : column.kind = .enum
  · rw [if_pos (beq_iff_eq.2 enum)]
    cases column.list? "values" with
    | none =>
      rw [if_pos ⟨enum, rfl⟩]
      exact .stop _ []
    | some items =>
      cases items with
      | nil =>
        rw [if_pos ⟨enum, rfl⟩]
        exact .stop _ []
      | cons first rest =>
        rw [if_neg nofun]
        exact .pure _
  · rw [if_neg (mt beq_iff_eq.1 enum), if_neg fun both => enum both.1]
    exact .pure []

theorem reports_readDefault : Reports (readDefault column) column.defaultFaults := by
  unfold readDefault ColumnDecl.defaultFaults
  cases column.value? "default" with
  | some text =>
    have valued : ¬ (column.has "default" = true ∧ some text = none) := fun both => nomatch both.2
    rw [if_neg valued]
    exact .pure (some text)
  | none =>
    dsimp only
    split
    · rename_i there
      rw [if_pos ⟨there, rfl⟩]
      exact .stop _ []
    · rename_i absent
      rw [if_neg fun both => absent both.1]
      exact .pure none

/-- The actions of a foreign key are looked at only where there is one. -/
theorem reports_readForeign : Reports (readForeign column)
    (if column.Refers then column.actionFaults "onDelete" ++ column.actionFaults "onUpdate"
      else []) := by
  unfold readForeign
  by_cases refers : column.Refers
  · rw [if_pos refers, if_pos (ColumnDecl.isForeignKey_iff.2 refers)]
    exact (reports_readAction column "onDelete").bind fun _ _ =>
      (reports_readAction column "onUpdate").map _
  · rw [if_neg refers, if_neg (mt ColumnDecl.isForeignKey_iff.1 refers)]
    exact .pure none

/-- **The specification of a column reports the faults of its options.** It is
put together by one look after the other, so the lists of the statements above
are joined in their order. -/
theorem reports_ofDecl : Reports (ofDecl column) column.faults :=
  (reports_readNumber column "length" maxLength).bind fun _ _ =>
    (reports_readPrecision column).bind fun _ _ =>
      (reports_readValues column).bind fun _ _ =>
        (reports_readDefault column).bind fun _ _ =>
          (reports_readForeign column).map _

end ColumnSpec

/-! ## All that is wrong with a comparison -/

/-- A column that the artifacts of a comparison change, with the type to which
it has to be given back, if it has to be. -/
structure Revision where
  /-- The column as declared. -/
  column : ColumnDecl
  /-- The type it has to be given back, unless that is the declared one. -/
  previousType? : Option String

namespace Revision

/-- **The column can be changed**: its options can be used, and its type can be given back. -/
def IsSound (revision : Revision) : Prop :=
  revision.column.IsSound ∧
    ∀ type, revision.previousType? = some type → TypeName.IsStored type

/-- The fault of a type that cannot be given back. -/
def typeFaults (name : String) : Option String → List Fault
  | none => []
  | some type => if TypeName.IsStored type then [] else [.unrestorableType name type]

/-- **All that is wrong with a column**: with its options, and then with its type. -/
def faults (revision : Revision) : List Fault :=
  revision.column.faults ++ typeFaults revision.column.name revision.previousType?

theorem faults_eq_nil_iff {revision : Revision} : revision.faults = [] ↔ revision.IsSound := by
  rw [faults, List.append_eq_nil_iff, ColumnDecl.faults_eq_nil_iff, IsSound]
  refine and_congr_right fun _ => ?_
  cases revision.previousType? with
  | none => exact iff_of_true rfl nofun
  | some type => by_cases stored : TypeName.IsStored type <;> simp [typeFaults, stored]

end Revision

namespace ColumnSpec

theorem reports_restore (name type : String) (nullable : Bool) :
    Reports (restore name type nullable) (Revision.typeFaults name (some type)) := by
  unfold restore Revision.typeFaults
  refine .lookUp TypeName.isSome_kindStoredAs?_iff (fun kind stored => ?_) fun stored => ?_
  · exact ⟨{ new name kind with nullable := nullable }, by rw [stored]⟩
  · rw [stored]

/-- A dropped column whose declared kind agrees with the live type carries no
type to be given back, so there is nothing to report. -/
theorem reports_restoreDropped (declared : ColumnSpec) (type : Option String) (nullable : Bool) :
    Reports (declared.restoreDropped type nullable) (Revision.typeFaults declared.name type) := by
  cases type with
  | none => exact .pure _
  | some type => exact (reports_restore declared.name type nullable).map _

end ColumnSpec

namespace TableDiff

/-- The columns that the artifacts of a comparison change: the new ones, the modified ones
and the dropped ones. -/
def revisions (diff : TableDiff) : List Revision :=
  diff.newColumns.map (fun column => ⟨column, none⟩) ++
    (diff.modifiedColumns.map (fun (column, type, _) => ⟨column, some type⟩) ++
      diff.droppedColumns.map fun (column, type, _) => ⟨column, type⟩)

variable (diff : TableDiff)

theorem reports_newColumns : Reports (diff.newColumns.mapM ColumnSpec.ofDecl)
    ((diff.newColumns.map fun column => (⟨column, none⟩ : Revision)).flatMap Revision.faults) := by
  rw [List.flatMap_map]
  refine Reports.mapM (fun column => ?_) diff.newColumns
  rw [Revision.faults, Revision.typeFaults, List.append_nil]
  exact ColumnSpec.reports_ofDecl column

/-- **The change of columns reports, column by column, what is wrong with the
options and then with the live type.** Nothing of a later column is looked at
before. -/
theorem reports_modificationBody : Reports diff.modificationBody
    ((diff.modifiedColumns.map fun (column, type, _) =>
      (⟨column, some type⟩ : Revision)).flatMap Revision.faults) := by
  rw [List.flatMap_map]
  refine (Reports.mapM (fun m => ?_) diff.modifiedColumns).map _
  exact (ColumnSpec.reports_ofDecl m.1).bind fun _ _ =>
    (ColumnSpec.reports_restore m.1.name m.2.1 m.2.2).map _

/-- So does the removal of columns, which looks at the options as well, because
the columns would be added again from them. -/
theorem reports_removalBody : Reports diff.removalBody
    ((diff.droppedColumns.map fun (column, type, _) =>
      (⟨column, type⟩ : Revision)).flatMap Revision.faults) := by
  rw [List.flatMap_map]
  refine (Reports.mapM (fun d => ?_) diff.droppedColumns).map _
  refine (ColumnSpec.reports_ofDecl d.1).bind fun declared made => ?_
  rw [← (ColumnSpec.of_ofDecl made).1]
  exact (declared.reports_restoreDropped d.2.1 d.2.2).map _

variable {diff}

/-- **The bodies of an alteration report what is wrong with its columns**:
first the new ones, then the modified ones, then the dropped ones. -/
theorem reports_bodies_of_alter (alters : diff.tableAction = .alter) (schema : TableDecl) :
    Reports (diff.bodies schema) (diff.revisions.flatMap Revision.faults) := by
  rw [bodies, alters, revisions, List.flatMap_append, List.flatMap_append]
  exact (diff.reports_newColumns.map _).bind fun _ _ =>
    diff.reports_modificationBody.bind fun _ _ => diff.reports_removalBody.map _

/-- So does the body of a creation, where all columns are new. -/
theorem reports_bodies_creation (decl schema : TableDecl) :
    Reports ((creation decl).bodies schema)
      ((creation decl).revisions.flatMap Revision.faults) := by
  have new : ∀ change ∈ (creation decl).changes, ∃ column, change.action = .new column := by
    intro change hm
    obtain ⟨column, -, rfl⟩ := List.mem_map.1 hm
    exact ⟨column, rfl⟩
  have modified : (creation decl).modifiedColumns = [] := List.filterMap_eq_nil_iff.2
    fun change hm => by obtain ⟨column, same⟩ := new change hm; rw [same]
  have dropped : (creation decl).droppedColumns = [] := List.filterMap_eq_nil_iff.2
    fun change hm => by obtain ⟨column, same⟩ := new change hm; rw [same]
  rw [revisions, modified, dropped, List.map_nil, List.map_nil, List.append_nil, List.append_nil]
  exact ((creation decl).reports_newColumns.map _).map _

/-- A comparison gives the creation of the declared table, whatever is live, or
an alteration. -/
theorem eq_creation_or_alters {options : DiffOptions} {inspector : Inspector} {decl : TableDecl}
    {live : Bool} (compared : compare options inspector decl live = .ok diff) :
    diff = creation decl ∨ diff.tableAction = .alter := by
  unfold compare at compared
  split at compared
  · exact .inr (tableAction_of_alteration compared)
  · cases compared
    exact .inl rfl

/-- No comparison calls for more than three bodies. -/
theorem length_le_of_bodies {schema : TableDecl} {made : List ArtifactBody}
    (h : diff.bodies schema = .ok made) : made.length ≤ 3 := by
  cases action : diff.tableAction with
  | create implicitKey =>
    rw [bodies, action] at h
    obtain ⟨body, -, one⟩ := bind_eq_ok_iff.1 h
    cases one
    exact (by decide : 1 ≤ 3)
  | alter =>
    obtain ⟨specs, rfl, -⟩ := exists_specs_of_alter action h
    exact specs.length_bodies_le

end TableDiff

/-- **Artifacts are made of what is sound, and the first fault is reported.** For whatever
a comparison finds, and at every time that is followed by two more seconds, all artifacts
are made if all columns can be changed. If not, none is made; the fault is one of the first
column that cannot be changed, new ones before modified ones and these before dropped ones,
and of this column the first one in the order of its options and its live type. -/
theorem emission_reports_the_first_fault {options : DiffOptions} {inspector : Inspector}
    {decl : TableDecl} {live : Bool} {diff : TableDiff}
    (compared : TableDiff.compare options inspector decl live = .ok diff) {now : Instant}
    (time : (now.later? 2).isSome = true) (schema : TableDecl) :
    ((∃ artifacts, diff.artifacts schema now = .ok artifacts) ↔
      ∀ revision ∈ diff.revisions, revision.IsSound) ∧
    ∀ fault, diff.artifacts schema now = .error fault ↔
      ∃ before revision after, diff.revisions = before ++ revision :: after ∧
        (∀ earlier ∈ before, earlier.IsSound) ∧ revision.faults.head? = some fault := by
  have bodies : Reports (diff.bodies schema) (diff.revisions.flatMap Revision.faults) := by
    rcases TableDiff.eq_creation_or_alters compared with rfl | alters
    · exact TableDiff.reports_bodies_creation decl schema
    · exact TableDiff.reports_bodies_of_alter alters schema
  have whole : Reports (diff.artifacts schema now) (diff.revisions.flatMap Revision.faults ++ []) :=
    bodies.bind fun made h => by
      have few := TableDiff.length_le_of_bodies h
      obtain ⟨artifacts, dated⟩ := @TableDiff.exists_dated made diff.table now 0 fun n hn =>
        Instant.isSome_later?_of_le (by omega) time
      rw [dated]
      exact .pure artifacts
  rw [List.append_nil] at whole
  constructor
  · rw [whole.exists_ok_iff, List.flatMap_eq_nil_iff]
    exact forall₂_congr fun _ _ => Revision.faults_eq_nil_iff
  · intro fault
    rw [whole.error_iff, List.head?_flatMap, List.findSome?_eq_some_iff]
    simp only [List.head?_eq_none_iff, Revision.faults_eq_nil_iff]
    constructor
    · rintro ⟨before, revision, after, split, first, sound⟩
      exact ⟨before, revision, after, split, sound, first⟩
    · rintro ⟨before, revision, after, split, sound, first⟩
      exact ⟨before, revision, after, split, first, sound⟩

namespace FaultyOrders

/-- Orders with a search vector, of a type that belongs to no kind. -/
def before : Catalog := ⟨[⟨"orders", [⟨"words", "tsvector", false, none⟩]⟩]⟩

/-- A note of up to forty characters. -/
def note : ColumnDecl := (ColumnDecl.new "note" .string).withValue "length" "+40"

/-- A total with too many digits and with a default that has no text. -/
def total : ColumnDecl :=
  ((ColumnDecl.new "total" .decimal).withValue "precision" "300").withFlag "default"

/-- The words are to go, and the note and the total to be added. -/
def decl : TableDecl where
  name := "orders"
  columns := [(ColumnDecl.new "words" .text).withFlag "drop", note, total]
  flags := ⟨false, false⟩
  indexes := []

/-- The comparison with the live table. -/
def diff : TableDiff where
  table := "orders"
  tableAction := .alter
  changes := [⟨"words", .dropped (.new "words" .text) (some "tsvector") false⟩,
    ⟨"note", .new note⟩, ⟨"total", .new total⟩]
  warnings := []

theorem compared : TableDiff.compare .standard (.online before) decl true = .ok diff :=
  eq_ok_of_any_beq (by decide)

theorem isSound_note : Revision.IsSound ⟨note, none⟩ :=
  Revision.faults_eq_nil_iff.1 (by decide)

end FaultyOrders

/-- Of three things that are wrong with the orders the digits of the total are reported: the
words are declared before it, but dropped columns come last. -/
theorem emission_reports_the_first_fault_orders :
    FaultyOrders.diff.artifacts FaultyOrders.decl LongerNotes.start =
      .error (.invalidOption "total" "precision" (.notANumber "300")) := by
  have report := emission_reports_the_first_fault FaultyOrders.compared
    (by decide : (LongerNotes.start.later? 2).isSome = true) FaultyOrders.decl
  refine (report.2 _).2 ⟨[⟨FaultyOrders.note, none⟩], ⟨FaultyOrders.total, none⟩,
    [⟨.new "words" .text, some "tsvector"⟩], rfl, ?_, rfl⟩
  exact List.forall_mem_singleton.2 FaultyOrders.isSound_note

end SchemaPlan
