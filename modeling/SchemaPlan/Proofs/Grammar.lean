import Mathlib.Data.List.Forall2
import Mathlib.Data.List.Induction
import Mathlib.Data.List.TakeWhile
import SchemaPlan.Proofs.Declaration
import SchemaPlan.Proofs.Words

/-!
# The grammar of declarations

What a declaration says is described here token by token, without a word on
how it is read: which tokens declare an index (`DeclaresIndex`), how the first
other token begins the table (`Begins`), which tokens declare a column and
which one (`DeclaresColumn`), and what is wrong with a token that does not
(`ColumnFlaw`). Each description is functional and each token has one: a token
that is not a flag declares one column or has one flaw
(`exists_column_or_flaw`).

`parse_follows_grammar` says that the reader keeps to this. A declaration is
read exactly if its name and all its column tokens are good; the table has then
all that its tokens say and nothing else; otherwise the flaws are reported, all
of them, once each and in the order of the tokens.
-/

namespace SchemaPlan

/-! ## Lists of faults -/

/-- A fault that stands for the faults of a list: the only one itself, several
together. -/
inductive Fault.Reports : Fault → List Fault → Prop where
  | one (fault : Fault) : Reports fault [fault]
  | several (first second : Fault) (later : List Fault) :
      Reports (.several (first :: second :: later)) (first :: second :: later)

/-- **The fault that stands for a list is known from the list**, and the list
from the fault: nothing is lost or added where the flaws of a declaration are
put together. -/
theorem Fault.collect?_eq_some_iff {fault : Fault} {faults : List Fault} :
    collect? faults = some fault ↔ fault.Reports faults := by
  constructor
  · intro h
    match faults, h with
    | [_], rfl => exact .one fault
    | first :: second :: later, rfl => exact .several first second later
  · rintro (_ | _)
    · rfl
    · rfl

namespace IndexKind

@[simp] theorem ofKeyword?_keyword (kind : IndexKind) : ofKeyword? kind.keyword = some kind := by
  cases kind <;> rfl

/-- A word in front of a colon that is taken for a kind of index is spelled as
its keyword, in this very case. -/
theorem keyword_of_ofKeyword? {word : String} {kind : IndexKind}
    (h : ofKeyword? word = some kind) : word = kind.keyword := by
  unfold ofKeyword? at h
  split at h
  · rename_i same
    cases h
    exact eq_of_beq same
  · split at h
    · rename_i same
      cases h
      exact eq_of_beq same
    · cases h

theorem colon_notMem_keyword (kind : IndexKind) : ':' ∉ kind.keyword.toList := by
  cases kind <;> decide

end IndexKind

namespace ColumnKind

/-- **No two kinds are told apart by case alone**, so a word in any case is the
name of at most one of them. There are finitely many names, and they are
compared. -/
theorem eq_of_lower_name {a b : ColumnKind} (h : Text.lower a.name = Text.lower b.name) :
    a = b := by
  have distinct : (all.map fun kind => Text.lower kind.name).Nodup := by decide +kernel
  exact List.inj_on_of_nodup_map distinct (mem_all a) (mem_all b) h

/-- A word is the name of a kind whatever its case. Of two kinds with the same
spelling the search would find the first one only, but there are no two. -/
@[simp] theorem ofName?_eq_some_iff {word : String} {kind : ColumnKind} :
    ofName? word = some kind ↔ Text.equalIgnoringCase kind.name word = true := by
  have spells {other : ColumnKind} (h : ofName? word = some other) :
      Text.equalIgnoringCase other.name word = true := by
    rw [ofName?, List.find?_eq_some_iff_append] at h
    exact h.1
  refine ⟨spells, fun spelled => ?_⟩
  cases found : ofName? word with
  | none => exact absurd spelled (List.find?_eq_none.1 found kind (mem_all kind))
  | some other =>
    have same := (eq_of_beq (spells found)).trans (eq_of_beq spelled).symm
    rw [eq_of_lower_name same]

theorem ofName?_eq_none_iff {word : String} :
    ofName? word = none ↔ ∀ kind : ColumnKind, Text.equalIgnoringCase kind.name word = false := by
  unfold ofName?
  rw [List.find?_eq_none]
  exact ⟨fun h kind => Bool.not_eq_true _ ▸ h kind (mem_all kind),
    fun h kind _ => Bool.not_eq_true _ ▸ h kind⟩

end ColumnKind

namespace Text

/-- A text is empty without the blanks at its ends when it has nothing else. -/
theorem trim_eq_empty_iff {s : String} : trim s = "" ↔ ∀ c ∈ s.toList, isBlank c = true := by
  rw [← String.toList_inj, trim, String.toList_ofList]
  show trimChars s.toList = [] ↔ _
  constructor
  · intro empty c member
    obtain ⟨before, after, whole, front, back⟩ := exists_trimChars s.toList
    rw [empty, List.append_nil] at whole
    rw [whole, List.mem_append] at member
    exact member.elim (front c) (back c)
  · intro blank
    have gone : s.toList.dropWhile isBlank = [] := List.dropWhile_eq_nil_iff.2 blank
    rw [trimChars, gone]
    rfl

end Text

namespace TableDecl

variable {text token name first word : String} {index : CompositeIndex} {column : ColumnDecl}
  {fault : Fault} {faults : List Fault} {body entries : List String} {decl : TableDecl}

/-! ## Indexes -/

/-- The tokens that declare an index, each with the index: a keyword and a
colon, and then letters, digits, underscores and bars, at least one. The
columns stand between the bars. -/
inductive DeclaresIndex : String → CompositeIndex → Prop where
  | intro (kind : IndexKind) {columns : String} (nonempty : columns ≠ "")
      (chars : ∀ c ∈ columns.toList, c.isAlphanum = true ∨ c = '_' ∨ c = '|') :
      DeclaresIndex (kind.keyword ++ ":" ++ columns)
        ⟨kind, (Text.pieces '|' columns).filter fun name => !name.isEmpty, none⟩

/-- The reader tests one character at a time; this is the test as the grammar
puts it, with letters and digits of ASCII only. -/
theorem isIndexChar_iff {c : Char} :
    isIndexChar c = true ↔ c.isAlphanum = true ∨ c = '_' ∨ c = '|' := by
  simp [isIndexChar, or_assoc]

/-- **The reader takes a token for an index exactly if it declares that
index.** All that a token of an index says is which columns stand between its
bars; that they are identifiers is not asked. -/
theorem readIndex?_eq_some_iff : readIndex? token = some index ↔ DeclaresIndex token index := by
  constructor
  · intro h
    obtain ⟨⟨keyword, columns⟩, cut, rest⟩ := Option.bind_eq_some_iff.1 h
    obtain ⟨kind, known, checked⟩ := Option.bind_eq_some_iff.1 rest
    cases Text.not_mem_or_exists_cut ':' token with
    | inl whole => rw [Text.cutAt?_eq_none whole] at cut; cases cut
    | inr parts =>
      obtain ⟨before, after, rfl, colon⟩ := parts
      rw [Text.cutAt?_append colon] at cut
      cases cut
      split at checked
      · rename_i formed
        cases checked
        rw [Bool.and_eq_true, Bool.not_eq_true', String.isEmpty_eq_false_iff,
          List.all_eq_true] at formed
        rw [IndexKind.keyword_of_ofKeyword? known]
        exact .intro kind formed.1 fun c member => isIndexChar_iff.1 (formed.2 c member)
      · cases checked
  · rintro ⟨kind, nonempty, chars⟩
    rename_i columns
    have formed : (!columns.isEmpty && columns.toList.all isIndexChar) = true := by
      rw [Bool.and_eq_true, Bool.not_eq_true', String.isEmpty_eq_false_iff,
        List.all_eq_true]
      exact ⟨nonempty, fun c member => isIndexChar_iff.2 (chars c member)⟩
    have cut := Text.cutAt?_append kind.colon_notMem_keyword columns
    unfold readIndex?
    show Option.bind (Text.cutAt? ':' (kind.keyword ++ String.singleton ':' ++ columns)) _ = _
    rw [cut, Option.bind_some]
    show Option.bind (IndexKind.ofKeyword? kind.keyword) _ = _
    rw [IndexKind.ofKeyword?_keyword, Option.bind_some, if_pos formed]

/-- Whether a token declares an index. -/
def IsIndexToken (token : String) : Prop :=
  ∃ index, DeclaresIndex token index

theorem isSome_readIndex?_iff : (readIndex? token).isSome = true ↔ IsIndexToken token := by
  rw [Option.isSome_iff_exists]
  exact exists_congr fun _ => readIndex?_eq_some_iff

instance (token : String) : Decidable (IsIndexToken token) :=
  decidable_of_iff ((readIndex? token).isSome = true) isSome_readIndex?_iff

/-- The tokens of a declaration that declare an index. -/
def indexTokens (text : String) : List String :=
  (tokens text).filter fun token => IsIndexToken token

/-- The other tokens of a declaration. -/
def bodyTokens (text : String) : List String :=
  (tokens text).filter fun token => ¬ IsIndexToken token

/-- What the reader passes on to the columns is what the grammar calls the
body: all tokens that declare no index, in their order. -/
theorem filter_isNone_readIndex? (all : List String) :
    (all.filter fun token => (readIndex? token).isNone) =
      all.filter fun token => ¬ IsIndexToken token := by
  refine List.filter_congr fun token _ => ?_
  rw [Bool.eq_iff_iff, decide_eq_true_iff, ← isSome_readIndex?_iff, Option.isNone_iff_eq_none,
    Option.isSome_iff_ne_none, not_not]

/-- The index tokens declare the indexes that are read, in order. -/
theorem forall₂_declaresIndex (all : List String) :
    List.Forall₂ DeclaresIndex (all.filter fun token => IsIndexToken token)
      (all.filterMap readIndex?) := by
  induction all with
  | nil => exact .nil
  | cons token later ih =>
    cases read : readIndex? token with
    | none =>
      have other : ¬ IsIndexToken token := by
        rw [← isSome_readIndex?_iff, read]
        exact Bool.false_ne_true
      rw [List.filter_cons_of_neg (by simpa using other), List.filterMap_cons_none read]
      exact ih
    | some index =>
      have declares := readIndex?_eq_some_iff.1 read
      have here : IsIndexToken token := ⟨index, declares⟩
      rw [List.filter_cons_of_pos (by simpa using here), List.filterMap_cons_some read]
      exact .cons declares ih

/-! ## Columns -/

/-- The texts between the colons of a token, without blanks at their ends. -/
def segments (token : String) : List String :=
  (Text.pieces ':' token).map Text.trim

/-- A token has a first segment, if only an empty one, so it always has a place
for the name. -/
@[simp] theorem segments_ne_nil (token : String) : segments token ≠ [] := by
  unfold segments Text.pieces
  rw [List.map_map, Ne, List.map_eq_nil_iff]
  exact List.splitOnP_ne_nil _ _

/-- The kinds that the second segment of a column token denotes, which may be
missing, and whether it is written: `string` if there is no text, and otherwise
the kind whose name it spells. -/
inductive DenotesKind : Option String → ColumnKind → Bool → Prop where
  | missing : DenotesKind none .string false
  | empty : DenotesKind (some "") .string false
  | written {word : String} {kind : ColumnKind} (nonempty : word ≠ "")
      (spelled : Text.equalIgnoringCase kind.name word = true) :
      DenotesKind (some word) kind true

/-- The tokens that declare a column, each with the column. -/
inductive DeclaresColumn : String → ColumnDecl → Prop where
  | intro {token name : String} {rest : List String} {kind : ColumnKind} {written : Bool}
      (cut : segments token = name :: rest) (named : isIdentifier name = true)
      (denoted : DenotesKind rest.head? kind written) :
      DeclaresColumn token ⟨name, kind, written, readOptions kind rest.tail⟩

/-- What is wrong with a token that declares no column: it has no name, or the
name is no identifier, or the name is good and the kind is not known. -/
inductive ColumnFlaw : String → Fault → Prop where
  | blankName {token : String} {rest : List String} (cut : segments token = "" :: rest) :
      ColumnFlaw token (.invalidDeclaration (.blankColumnName token))
  | badName {token name : String} {rest : List String} (cut : segments token = name :: rest)
      (nonempty : name ≠ "") (bad : isIdentifier name = false) :
      ColumnFlaw token (.invalidDeclaration (.badColumnName name))
  | unknownKind {token name word : String} {rest : List String}
      (cut : segments token = name :: word :: rest) (named : isIdentifier name = true)
      (nonempty : word ≠ "")
      (unknown : ∀ kind : ColumnKind, Text.equalIgnoringCase kind.name word = false) :
      ColumnFlaw token (.invalidKind name word)

/-- Whether a token declares a column: the first segment is an identifier, and
the second is missing, empty or the name of a kind in any case. -/
def IsColumnToken (token : String) : Prop :=
  ∃ name rest, segments token = name :: rest ∧ isIdentifier name = true ∧
    ∀ word, rest.head? = some word →
      word = "" ∨ ∃ kind : ColumnKind, Text.equalIgnoringCase kind.name word = true

theorem ne_empty_of_isIdentifier (h : isIdentifier name = true) : name ≠ "" := by
  rintro rfl
  exact absurd h (by decide)

theorem exists_denotesKind_iff {second : Option String} :
    (∃ kind written, DenotesKind second kind written) ↔
      ∀ word, second = some word →
        word = "" ∨ ∃ kind : ColumnKind, Text.equalIgnoringCase kind.name word = true := by
  constructor
  · rintro ⟨kind, written, _ | _ | ⟨_, spelled⟩⟩ word same
    · cases same
    · cases same
      exact .inl rfl
    · cases same
      exact .inr ⟨kind, spelled⟩
  · intro h
    cases second with
    | none => exact ⟨.string, false, .missing⟩
    | some word =>
      by_cases empty : word = ""
      · exact ⟨.string, false, empty ▸ .empty⟩
      · obtain ⟨kind, spelled⟩ := (h word rfl).resolve_left empty
        exact ⟨kind, true, .written empty spelled⟩

/-- A token declares a column exactly if it is a column token: the name and the
kind can be judged without knowing which column it will be. -/
theorem exists_declaresColumn_iff :
    (∃ column, DeclaresColumn token column) ↔ IsColumnToken token := by
  constructor
  · rintro ⟨_, cut, named, denoted⟩
    exact ⟨_, _, cut, named, exists_denotesKind_iff.1 ⟨_, _, denoted⟩⟩
  · rintro ⟨name, rest, cut, named, known⟩
    obtain ⟨kind, written, denoted⟩ := exists_denotesKind_iff.2 known
    exact ⟨_, .intro cut named denoted⟩

/-- **A token declares a column or has a flaw.** The cases are those of the
reader: no name, a bad name, an unknown kind, or none of these. -/
theorem exists_column_or_flaw (token : String) :
    (∃ column, DeclaresColumn token column) ∨ ∃ fault, ColumnFlaw token fault := by
  obtain ⟨name, rest, cut⟩ := List.exists_cons_of_ne_nil (segments_ne_nil token)
  by_cases empty : name = ""
  · exact .inr ⟨_, .blankName (empty ▸ cut)⟩
  · cases named : isIdentifier name with
    | false => exact .inr ⟨_, .badName cut empty named⟩
    | true =>
      cases rest with
      | nil => exact .inl ⟨_, .intro cut named .missing⟩
      | cons word options =>
        by_cases nothing : word = ""
        · subst nothing
          exact .inl ⟨_, .intro cut named .empty⟩
        · cases known : ColumnKind.ofName? word with
          | none =>
            have unknown := ColumnKind.ofName?_eq_none_iff.1 known
            exact .inr ⟨_, .unknownKind cut named nothing unknown⟩
          | some kind =>
            have spelled := ColumnKind.ofName?_eq_some_iff.1 known
            exact .inl ⟨_, .intro cut named (.written nothing spelled)⟩

/-- A segment that denotes a kind is read as that kind, and it is remembered
whether it was written, since a column `id` without a written kind is the
default key. -/
theorem readKind_of_denotesKind {second : Option String} {kind : ColumnKind} {written : Bool}
    (h : DenotesKind second kind written) (name : String) :
    readKind name second = .ok (kind, written) := by
  cases h with
  | missing => rfl
  | empty => rfl
  | written nonempty spelled =>
    rw [readKind, String.isEmpty_eq_false_iff.2 nonempty, ColumnKind.ofName?_eq_some_iff.2 spelled]
    rfl

theorem readColumn_of_segments {rest : List String} (cut : segments token = name :: rest)
    (named : isIdentifier name = true) :
    readColumn token = (do
      let (kind, written) ← readKind name rest.head?
      return ⟨name, kind, written, readOptions kind rest.tail⟩) := by
  unfold readColumn
  rw [show (Text.pieces ':' token).map Text.trim = name :: rest from cut]
  dsimp only
  rw [String.isEmpty_eq_false_iff.2 (ne_empty_of_isIdentifier named), named]
  rfl

/-- **What a token declares is what is read from it.** With the next statement,
and since a token declares a column or has a flaw, both directions follow. -/
theorem readColumn_of_declaresColumn (h : DeclaresColumn token column) :
    readColumn token = .ok column := by
  obtain ⟨cut, named, denoted⟩ := h
  rw [readColumn_of_segments cut named, readKind_of_denotesKind denoted]
  rfl

theorem readColumn_of_columnFlaw (h : ColumnFlaw token fault) :
    readColumn token = .error fault := by
  cases h with
  | blankName cut =>
    unfold readColumn
    rw [show (Text.pieces ':' token).map Text.trim = _ from cut]
    rfl
  | badName cut nonempty bad =>
    unfold readColumn
    rw [show (Text.pieces ':' token).map Text.trim = _ from cut]
    dsimp only
    rw [String.isEmpty_eq_false_iff.2 nonempty, bad]
    rfl
  | unknownKind cut named nonempty unknown =>
    rw [readColumn_of_segments cut named, List.head?_cons, readKind,
      String.isEmpty_eq_false_iff.2 nonempty, ColumnKind.ofName?_eq_none_iff.2 unknown]
    rfl

/-! ## The body -/

/-- Whether a token is one of the two flags of a table. -/
def isFlag (token : String) : Bool :=
  token == "softDeletes" || token == "timestamps"

/-- The tokens of a body that should declare a column. -/
def columnTokens (body : List String) : List String :=
  body.filter fun token => !isFlag token

/-- What is wrong with column tokens: the flaws of those that have one, in
order. A token has at most one, and a flawed token does not keep the later ones
from being looked at. -/
inductive ColumnFlaws : List String → List Fault → Prop where
  | nil : ColumnFlaws [] []
  | sound {token : String} {later : List String} {faults : List Fault}
      (here : IsColumnToken token) (there : ColumnFlaws later faults) :
      ColumnFlaws (token :: later) faults
  | flawed {token : String} {fault : Fault} {later : List String} {faults : List Fault}
      (here : ColumnFlaw token fault) (there : ColumnFlaws later faults) :
      ColumnFlaws (token :: later) (fault :: faults)

/-- The flaws of a list of column tokens, one after the other, are the faults
that remain when each of them is read by itself. -/
theorem columnFlaws_iff {all : List String} :
    ColumnFlaws all faults ↔ faultsOf (all.map readColumn) = faults := by
  constructor
  · intro h
    induction h with
    | nil => rfl
    | sound here _ ih =>
      obtain ⟨column, declares⟩ := exists_declaresColumn_iff.2 here
      rw [List.map_cons, readColumn_of_declaresColumn declares]
      exact ih
    | flawed here _ ih =>
      rw [List.map_cons, readColumn_of_columnFlaw here]
      exact congrArg (_ :: ·) ih
  · intro h
    induction all generalizing faults with
    | nil => exact h ▸ .nil
    | cons token later ih =>
      cases exists_column_or_flaw token with
      | inl sound =>
        obtain ⟨column, declares⟩ := sound
        rw [List.map_cons, readColumn_of_declaresColumn declares] at h
        exact .sound (exists_declaresColumn_iff.1 ⟨column, declares⟩) (ih h)
      | inr flawed =>
        obtain ⟨fault, flaw⟩ := flawed
        rw [List.map_cons, readColumn_of_columnFlaw flaw] at h
        exact h ▸ .flawed flaw (ih rfl)

theorem columnFlaws_nil_iff {all : List String} :
    ColumnFlaws all [] ↔ ∀ token ∈ all, IsColumnToken token := by
  constructor
  · intro h
    generalize none : ([] : List Fault) = faults at h
    induction h with
    | nil => nofun
    | sound here _ ih => exact List.forall_mem_cons.2 ⟨here, ih none⟩
    | flawed => cases none
  · intro h
    induction all with
    | nil => exact .nil
    | cons token later ih =>
      rw [List.forall_mem_cons] at h
      exact .sound h.1 (ih h.2)

/-- Where nothing is wrong the columns that are read are those that the tokens
declare, one for each and in their order. -/
theorem forall₂_declaresColumn {all : List String} (h : ∀ token ∈ all, IsColumnToken token) :
    List.Forall₂ DeclaresColumn all (valuesOf (all.map readColumn)) := by
  induction all with
  | nil => exact .nil
  | cons token later ih =>
    rw [List.forall_mem_cons] at h
    obtain ⟨column, declares⟩ := exists_declaresColumn_iff.2 h.1
    rw [List.map_cons, readColumn_of_declaresColumn declares]
    exact .cons declares (ih h.2)

/-! ## Entries

The reader goes through flags and columns alike. What it finds is what the
column tokens have, and the flags. -/

/-- The column that an entry declares. -/
def Entry.column? : Entry → Option ColumnDecl
  | .column decl => some decl
  | _ => none

/-- A token of the body that is no flag is read as a column, so what is wrong
with it is what is wrong with the column. -/
theorem readEntry_of_isFlag_eq_false (h : isFlag token = false) :
    readEntry token = (readColumn token).map .column := by
  rw [isFlag, Bool.or_eq_false_iff] at h
  rw [readEntry, h.1, h.2]
  rfl

/-- The two flags are spelled in one way only; a token `softdeletes` is the
name of a column. -/
@[simp] theorem isFlag_iff :
    isFlag token = true ↔ token = "softDeletes" ∨ token = "timestamps" := by
  rw [isFlag, Bool.or_eq_true, beq_iff_eq, beq_iff_eq]

/-- What a reading of an entry says of a column: nothing, if it is a flag. -/
def columnResult? : Except Fault Entry → Option (Except Fault ColumnDecl)
  | .ok (.column decl) => some (.ok decl)
  | .ok _ => none
  | .error fault => some (.error fault)

/-- Without the flags, the results of reading a body are those of reading its
column tokens. The two statements after this one take faults and columns apart.
-/
theorem filterMap_columnResult? (body : List String) :
    (body.map readEntry).filterMap columnResult? = (columnTokens body).map readColumn := by
  unfold columnTokens
  induction body with
  | nil => rfl
  | cons token later ih =>
    cases flag : isFlag token with
    | true =>
      rw [List.filter_cons_of_neg (by rw [flag]; decide), List.map_cons, ← ih]
      cases isFlag_iff.1 flag with
      | inl soft => rw [soft]; rfl
      | inr stamps => rw [stamps]; rfl
    | false =>
      have here : columnResult? (readEntry token) = some (readColumn token) := by
        rw [readEntry_of_isFlag_eq_false flag]
        cases readColumn token <;> rfl
      rw [List.filter_cons_of_pos (by rw [flag]; decide), List.map_cons, List.map_cons,
        List.filterMap_cons_some here, ih]

theorem faultsOf_readEntry (body : List String) :
    faultsOf (body.map readEntry) = faultsOf ((columnTokens body).map readColumn) := by
  rw [← filterMap_columnResult?, faultsOf, faultsOf, List.filterMap_filterMap]
  refine List.filterMap_congr fun result _ => ?_
  rcases result with _ | (_ | _ | _) <;> rfl

theorem filterMap_column?_valuesOf (body : List String) :
    (valuesOf (body.map readEntry)).filterMap Entry.column? =
      valuesOf ((columnTokens body).map readColumn) := by
  rw [← filterMap_columnResult?, valuesOf, valuesOf, List.filterMap_filterMap,
    List.filterMap_filterMap]
  refine List.filterMap_congr fun result _ => ?_
  rcases result with _ | (_ | _ | _) <;> rfl

theorem isFlag_of_readEntry {entry : Entry} (h : readEntry token = .ok entry)
    (none : entry.column? = none) : isFlag token = true := by
  cases flag : isFlag token with
  | true => rfl
  | false =>
    rw [readEntry_of_isFlag_eq_false flag] at h
    cases read : readColumn token with
    | ok column =>
      rw [read] at h
      cases h
      cases none
    | error fault =>
      rw [read] at h
      cases h

/-- The entry for soft deletion comes from its flag and from nothing else, so
the flag of the table is set exactly if the token stands in the body. -/
@[simp] theorem readEntry_eq_ok_softDeletes_iff :
    readEntry token = .ok .softDeletes ↔ token = "softDeletes" := by
  refine ⟨fun h => ?_, fun same => same ▸ rfl⟩
  refine (isFlag_iff.1 (isFlag_of_readEntry h rfl)).resolve_right fun same => ?_
  rw [same] at h
  cases h

@[simp] theorem readEntry_eq_ok_timestamps_iff :
    readEntry token = .ok .timestamps ↔ token = "timestamps" := by
  refine ⟨fun h => ?_, fun same => same ▸ rfl⟩
  refine (isFlag_iff.1 (isFlag_of_readEntry h rfl)).resolve_left fun same => ?_
  rw [same] at h
  cases h

@[simp] theorem mem_valuesOf_iff {α : Type} {results : List (Except Fault α)} {value : α} :
    value ∈ valuesOf results ↔ .ok value ∈ results := by
  induction results with
  | nil => exact iff_of_false List.not_mem_nil List.not_mem_nil
  | cons result later ih =>
    cases result with
    | ok other =>
      show value ∈ other :: valuesOf later ↔ _
      rw [List.mem_cons, List.mem_cons, ih, Except.ok.injEq]
    | error fault =>
      show value ∈ valuesOf later ↔ _
      rw [List.mem_cons, ih]
      exact (or_iff_right nofun).symm

/-! ## The table of entries -/

/-- A table is made by adding entry after entry. Seen from its columns this is
a run of `putColumn`, and flags play no part in it. -/
theorem columns_foldl_add (table : TableDecl) (all : List Entry) :
    (all.foldl add table).columns =
      (all.filterMap Entry.column?).foldl (fun columns column => putColumn column columns)
        table.columns := by
  induction all generalizing table with
  | nil => rfl
  | cons entry rest ih =>
    rw [List.foldl_cons, ih]
    cases entry <;> rfl

theorem flags_foldl_add (table : TableDecl) (all : List Entry) :
    (all.foldl add table).flags =
      ⟨table.flags.softDeletes || decide (.softDeletes ∈ all),
        table.flags.timestamps || decide (.timestamps ∈ all)⟩ := by
  induction all generalizing table with
  | nil => simp
  | cons entry rest ih =>
    rw [List.foldl_cons, ih]
    cases entry <;> simp [add, declare]

/-- A name at the end of a list is kept if it was not there before. This is how
a column that is declared again keeps its first place. -/
theorem eraseDups_concat (names : List String) (name : String) :
    (names ++ [name]).eraseDups =
      if name ∈ names then names.eraseDups else names.eraseDups ++ [name] := by
  rw [List.eraseDups_append, List.cons_removeAll, List.nil_removeAll]
  by_cases again : name ∈ names
  · rw [if_pos again, if_neg (by simpa using again), List.eraseDups_nil, List.append_nil]
  · rw [if_neg again, if_pos (by simpa using again)]
    rfl

/-- **A column stands where its name was first declared**: the names of the
columns are the declared names without the repetitions. -/
theorem names_foldl_putColumn (all : List ColumnDecl) :
    (all.foldl (fun columns column => putColumn column columns) []).map (fun c => c.name) =
      (all.map fun c => c.name).eraseDups := by
  induction all using List.reverseRecOn with
  | nil => rfl
  | append_singleton before column ih =>
    rw [List.foldl_append, List.foldl_cons, List.foldl_nil, map_name_putColumn, ih,
      List.map_append, List.map_singleton, eraseDups_concat]
    simp only [List.mem_eraseDups]

/-- A look-up after a column was put finds this column under its name, and
under all other names what was there. -/
theorem find?_putColumn (column : ColumnDecl) (columns : List ColumnDecl) (name : String) :
    (putColumn column columns).find? (fun c => c.name == name) =
      if column.name = name then some column else columns.find? fun c => c.name == name := by
  induction columns with
  | nil => simp [putColumn]
  | cons first rest ih =>
    rw [putColumn]
    by_cases place : first.name = column.name
    · rw [if_pos place]
      by_cases same : column.name = name
      · simp [same]
      · simp [same, place]
    · rw [if_neg place, List.find?_cons, List.find?_cons, ih]
      by_cases here : first.name = name
      · have other : ¬ column.name = name := fun same => place (here.trans same.symm)
        simp [here, other]
      · rw [beq_eq_false_iff_ne.2 here]

/-- **A column is as it was last declared.** Among the declarations of a name
the last one counts. -/
theorem find?_foldl_putColumn (all : List ColumnDecl) (name : String) :
    (all.foldl (fun columns column => putColumn column columns) []).find?
        (fun c => c.name == name) =
      (all.filter fun c => c.name == name).getLast? := by
  induction all using List.reverseRecOn with
  | nil => rfl
  | append_singleton before column ih =>
    rw [List.foldl_append, List.foldl_cons, List.foldl_nil, find?_putColumn, ih,
      List.filter_append]
    by_cases same : column.name = name
    · simp [same]
    · simp [same]

/-! ## The beginning of the table -/

/-- How the first token of a body begins the table: its name, and the entry
after the name, if there is one. -/
inductive Begins : String → String → List String → Prop where
  | bare {token : String} (whole : ':' ∉ token.toList) : Begins token token []
  | alone {before after : String} (cut : ':' ∉ before.toList) (blank : Text.trim after = "") :
      Begins (before ++ ":" ++ after) (Text.trim before) []
  | entry {before after : String} (cut : ':' ∉ before.toList) (more : Text.trim after ≠ "") :
      Begins (before ++ ":" ++ after) (Text.trim before) [Text.trim after]

/-- Every token begins a table somehow: there is a first colon in it or none,
and after the first there is something or nothing. -/
theorem exists_begins (token : String) : ∃ name entries, Begins token name entries := by
  cases Text.not_mem_or_exists_cut ':' token with
  | inl whole => exact ⟨_, _, .bare whole⟩
  | inr parts =>
    obtain ⟨before, after, rfl, cut⟩ := parts
    by_cases blank : Text.trim after = ""
    · exact ⟨_, _, .alone cut blank⟩
    · exact ⟨_, _, .entry cut blank⟩

theorem cutTableName_of_begins (h : Begins token name entries) :
    (cutTableName token).1 = name ∧
      (if (cutTableName token).2.isEmpty then [] else [(cutTableName token).2]) = entries := by
  unfold cutTableName
  cases h with
  | bare whole =>
    rw [Text.cutAt?_eq_none whole]
    exact ⟨rfl, rfl⟩
  | @alone before after cut blank =>
    have split : Text.cutAt? ':' (before ++ ":" ++ after) = _ := Text.cutAt?_append cut after
    rw [split]
    exact ⟨rfl, if_pos (String.isEmpty_iff.2 blank)⟩
  | @entry before after cut more =>
    have split : Text.cutAt? ':' (before ++ ":" ++ after) = _ := Text.cutAt?_append cut after
    rw [split]
    exact ⟨rfl, if_neg (mt String.isEmpty_iff.1 more)⟩

/-- What is wrong with the name of a table, read from a token. -/
inductive NameFlaws (token name : String) : List Fault → Prop where
  | sound (named : isIdentifier name = true) : NameFlaws token name []
  | blank (nothing : name = "") :
      NameFlaws token name [.invalidDeclaration (.blankTableName token)]
  | bad (nonempty : name ≠ "") (unnamed : isIdentifier name = false) :
      NameFlaws token name [.invalidDeclaration (.badTableName name)]

/-- What is wrong with a name of a table is what the reader finds wrong with
it: nothing, that it is missing, or that it is no identifier. -/
theorem nameFlaws_iff : NameFlaws token name faults ↔ (nameFault? token name).toList = faults := by
  unfold nameFault?
  constructor
  · rintro (named | nothing | ⟨nonempty, unnamed⟩)
    · rw [String.isEmpty_eq_false_iff.2 (ne_empty_of_isIdentifier named), named]
      rfl
    · rw [String.isEmpty_iff.2 nothing]
      rfl
    · rw [String.isEmpty_eq_false_iff.2 nonempty, unnamed]
      rfl
  · rintro rfl
    by_cases nothing : name = ""
    · rw [String.isEmpty_iff.2 nothing]
      exact .blank nothing
    · rw [String.isEmpty_eq_false_iff.2 nothing]
      cases named : isIdentifier name with
      | true => exact .sound named
      | false => exact .bad nothing named

/-! ## Declarations -/

/-- The body of a declaration: the token that begins the table, the name in it,
and the entries, of which the first may stand in that token too. -/
inductive HasBody (text : String) : String → String → List String → Prop where
  | intro {first name : String} {entries later : List String}
      (tokens : bodyTokens text = first :: later) (begins : Begins first name entries) :
      HasBody text first name (entries ++ later)

/-- What is wrong with a body: the name of the table, and then its columns. -/
inductive BodyFlaws (first name : String) (body : List String) : List Fault → Prop where
  | intro {ahead later : List Fault} (named : NameFlaws first name ahead)
      (columns : ColumnFlaws (columnTokens body) later) :
      BodyFlaws first name body (ahead ++ later)

/-- The table that a declaration describes by its index tokens, the name and a
body without flaws. A column that is declared again stands where it was first
declared, and is as it was last declared. -/
structure Declares (text name : String) (body : List String) (decl : TableDecl) : Prop where
  /-- The name is the one in front. -/
  name_eq : decl.name = name
  /-- The flags are those that stand in the body. -/
  flags_eq : decl.flags = ⟨decide ("softDeletes" ∈ body), decide ("timestamps" ∈ body)⟩
  /-- The indexes are those of the index tokens, in order. -/
  indexes : List.Forall₂ DeclaresIndex (indexTokens text) decl.indexes
  /-- The columns are those of the column tokens. -/
  columns : ∃ columns, List.Forall₂ DeclaresColumn (columnTokens body) columns ∧
    decl.columnNames = (columns.map fun c => c.name).eraseDups ∧
    ∀ name, decl.column? name = (columns.filter fun c => c.name == name).getLast?

/-- The flaws of a body, in the order in which they are reported: what is wrong
with the name, then what is wrong with the columns. -/
theorem bodyFlaws_iff :
    BodyFlaws first name body faults ↔
      (nameFault? first name).toList ++ faultsOf ((columnTokens body).map readColumn) = faults := by
  constructor
  · rintro ⟨named, columns⟩
    rw [nameFlaws_iff.1 named, columnFlaws_iff.1 columns]
  · rintro rfl
    exact .intro (nameFlaws_iff.2 rfl) (columnFlaws_iff.2 rfl)

/-- **A body is good exactly if its name and its column tokens are.** Nothing
else can be wrong in a declaration that has a token for the name. -/
theorem bodyFlaws_nil_iff :
    BodyFlaws first name body [] ↔
      isIdentifier name = true ∧ ∀ token ∈ columnTokens body, IsColumnToken token := by
  rw [bodyFlaws_iff, List.append_eq_nil_iff, ← nameFlaws_iff, ← columnFlaws_iff,
    columnFlaws_nil_iff]
  refine and_congr_left fun _ => ⟨fun h => ?_, .sound⟩
  cases h with
  | sound named => exact named

/-- **The table that is made of the entries of a good body is the one the
declaration describes**, which collects the statements on names, columns and
flags above. -/
theorem declares_of_entries (h : ∀ token ∈ columnTokens body, IsColumnToken token) (text : String) :
    Declares text name body
      { (valuesOf (body.map readEntry)).foldl add (empty name) with
        indexes := (tokens text).filterMap readIndex? } where
  name_eq := name_foldl_add (empty name) _
  flags_eq := by
    show ((valuesOf (body.map readEntry)).foldl add (empty name)).flags = _
    rw [flags_foldl_add]
    simp [empty, mem_valuesOf_iff, readEntry_eq_ok_softDeletes_iff,
      readEntry_eq_ok_timestamps_iff]
  indexes := forall₂_declaresIndex (tokens text)
  columns := by
    have same : ((valuesOf (body.map readEntry)).foldl add (empty name)).columns = _ :=
      columns_foldl_add (empty name) _
    rw [filterMap_column?_valuesOf] at same
    refine ⟨_, forall₂_declaresColumn h, ?_, fun name => ?_⟩
    · show List.map (fun c => c.name) (TableDecl.columns _) = _
      rw [same]
      exact names_foldl_putColumn _
    · show List.find? _ (TableDecl.columns _) = _
      rw [same]
      exact find?_foldl_putColumn _ name

/-- A text of blanks has no tokens. -/
theorem tokens_eq_nil_of_trim (h : Text.trim text = "") : tokens text = [] := by
  have comma : ',' ∉ text.toList :=
    fun found => absurd (Text.trim_eq_empty_iff.1 h ',' found) (by decide)
  unfold tokens Text.pieces
  rw [List.splitOn_eq_singleton comma, List.map_singleton, List.map_singleton,
    String.ofList_toList, h]
  rfl

theorem parse_eq (text : String) :
    parse text =
      if Text.trim text = "" then .error (.invalidDeclaration .empty)
      else readBody ((tokens text).filterMap readIndex?) (bodyTokens text) := by
  unfold parse
  rw [bodyTokens, ← filter_isNone_readIndex?]
  simp only [String.isEmpty_iff]

/-- A declaration with a body is read from the entries of the body. -/
theorem parse_of_hasBody (h : HasBody text first name body) :
    parse text =
      match Fault.collect? ((nameFault? first name).toList ++
        faultsOf ((columnTokens body).map readColumn)) with
      | some fault => .error fault
      | none => .ok { (valuesOf (body.map readEntry)).foldl add (empty name) with
          indexes := (tokens text).filterMap readIndex? } := by
  obtain ⟨found, begins⟩ := h
  have filled : Text.trim text ≠ "" := by
    intro blank
    rw [bodyTokens, tokens_eq_nil_of_trim blank] at found
    cases found
  have read := parse_eq text
  rw [if_neg filled, found] at read
  obtain ⟨rfl, rfl⟩ := cutTableName_of_begins begins
  rw [read, ← faultsOf_readEntry]
  rfl

/-- A declaration with a body is refused exactly for the flaws of the body, all
of them in one fault. -/
theorem parse_eq_error_iff (h : HasBody text first name body) :
    parse text = .error fault ↔
      ∃ faults, BodyFlaws first name body faults ∧ fault.Reports faults := by
  simp only [bodyFlaws_iff, exists_eq_left', ← Fault.collect?_eq_some_iff]
  rw [parse_of_hasBody h]
  split
  · rename_i reported
    rw [reported]
    exact ⟨fun same => congrArg some (Except.error.inj same),
      fun same => congrArg Except.error (Option.some.inj same)⟩
  · rename_i flawless
    rw [flawless]
    exact iff_of_false nofun nofun

/-- A declaration with a body is read exactly if the body is good, and then as
the table of its entries. -/
theorem parse_eq_ok_iff (h : HasBody text first name body) :
    parse text = .ok decl ↔
      BodyFlaws first name body [] ∧
        decl = { (valuesOf (body.map readEntry)).foldl add (empty name) with
          indexes := (tokens text).filterMap readIndex? } := by
  rw [bodyFlaws_iff, parse_of_hasBody h, ← Fault.collect?_eq_none_iff]
  split
  · rename_i reported
    rw [reported]
    exact iff_of_false nofun fun h => nomatch h.1
  · rename_i flawless
    rw [flawless]
    exact ⟨fun same => ⟨rfl, (Except.ok.inj same).symm⟩, fun same => congrArg _ same.2.symm⟩

/-- **A declaration that is read has a body, and the table is the one that it
describes.** This is the form in which later modules take declarations apart.
-/
theorem exists_declares_of_parse (h : parse text = .ok decl) :
    ∃ first name body, HasBody text first name body ∧ Declares text name body decl := by
  cases found : bodyTokens text with
  | nil =>
    rw [parse_eq, found, readBody] at h
    split at h
    · cases h
    · cases h
  | cons first later =>
    obtain ⟨name, entries, begins⟩ := exists_begins first
    have whole : HasBody text first name (entries ++ later) := .intro found begins
    obtain ⟨flawless, rfl⟩ := (parse_eq_ok_iff whole).1 h
    exact ⟨first, name, _, whole, declares_of_entries (bodyFlaws_nil_iff.1 flawless).2 text⟩

/-- **A declaration is read exactly if it keeps to the grammar, and otherwise
every flaw in it is reported.** Without a token for the name of the table that
is the one fault. With one, the declaration is read if the name is an identifier
and all column tokens declare columns, and the table is the one it describes;
if not, the flaws are reported in the order of the tokens. -/
theorem parse_follows_grammar (text : String) :
    (bodyTokens text = [] →
      parse text =
        .error (.invalidDeclaration (if Text.trim text = "" then .empty else .noTableName))) ∧
    (bodyTokens text ≠ [] → ∃ first name body, HasBody text first name body) ∧
    ∀ first name body, HasBody text first name body →
      ((∃ decl, parse text = .ok decl) ↔
        isIdentifier name = true ∧ ∀ token ∈ columnTokens body, IsColumnToken token) ∧
      (∀ decl, parse text = .ok decl → Declares text name body decl) ∧
      ∀ fault, parse text = .error fault ↔
        ∃ faults, BodyFlaws first name body faults ∧ fault.Reports faults := by
  refine ⟨fun nothing => ?_, fun found => ?_,
    fun first name body h => ⟨?_, fun decl read => ?_, fun fault => parse_eq_error_iff h⟩⟩
  · rw [parse_eq, nothing, readBody]
    by_cases blank : Text.trim text = ""
    · rw [if_pos blank, if_pos blank]
    · rw [if_neg blank, if_neg blank]
  · obtain ⟨first, later, found⟩ := List.exists_cons_of_ne_nil found
    obtain ⟨name, entries, begins⟩ := exists_begins first
    exact ⟨first, name, entries ++ later, .intro found begins⟩
  · simp only [parse_eq_ok_iff h, exists_and_left, exists_eq, and_true]
    exact bodyFlaws_nil_iff
  · obtain ⟨flawless, rfl⟩ := (parse_eq_ok_iff h).1 read
    exact declares_of_entries (bodyFlaws_nil_iff.1 flawless).2 text

/-- A name with a blank in it, an index, a kind that is not known, a column
without a name and a flag: three flaws, all of them reported. -/
theorem parse_follows_grammar_orders :
    HasBody "order list:id:uuid,unique:a|b, total:nope ,:x,timestamps" "order list:id:uuid"
      "order list" (["id:uuid"] ++ ["total:nope", ":x", "timestamps"]) ∧
    parse "order list:id:uuid,unique:a|b, total:nope ,:x,timestamps" =
      .error (.several [.invalidDeclaration (.badTableName "order list"),
        .invalidKind "total" "nope", .invalidDeclaration (.blankColumnName ":x")]) := by
  have found : bodyTokens "order list:id:uuid,unique:a|b, total:nope ,:x,timestamps" =
      ["order list:id:uuid", "total:nope", ":x", "timestamps"] := by decide +kernel
  have begins : Begins "order list:id:uuid" "order list" ["id:uuid"] := by
    have trimmed : Text.trim "order list" = "order list" ∧ Text.trim "id:uuid" = "id:uuid" := by
      decide +kernel
    have cut := @Begins.entry "order list" "id:uuid" (by decide) (by rw [trimmed.2]; decide)
    rwa [trimmed.1, trimmed.2] at cut
  have body := HasBody.intro found begins
  have flaws : ColumnFlaws ["id:uuid", "total:nope", ":x"] _ :=
    .sound ⟨"id", ["uuid"], by decide +kernel, by decide +kernel,
      fun word same => .inr ⟨.uuid, by cases same; decide +kernel⟩⟩ <|
    .flawed (@ColumnFlaw.unknownKind _ "total" "nope" [] (by decide +kernel) (by decide +kernel)
      (by decide) (ColumnKind.ofName?_eq_none_iff.1 (by decide +kernel))) <|
    .flawed (@ColumnFlaw.blankName ":x" ["x"] (by decide +kernel)) .nil
  have named : NameFlaws "order list:id:uuid" "order list" _ := .bad (by decide) (by decide +kernel)
  have faults := ((parse_follows_grammar _).2.2 _ _ _ body).2.2
  exact ⟨body, (faults _).2 ⟨_, .intro named flaws, .several _ _ _⟩⟩

end TableDecl

end SchemaPlan
