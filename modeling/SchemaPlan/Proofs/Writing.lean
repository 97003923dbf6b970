import SchemaPlan.Declaration.Writing
import SchemaPlan.Proofs.Grammar
import SchemaPlan.Proofs.UnitReading

/-!
# What is written is read back

The reader has rules that depend on where a text stands. Digits after the kind
of a text column are its length, `values` of an enumeration has a list, a table
has two words for its flags, and a token in front of whose colon `unique` or
`index` stands may be an index. A declaration is *writable*
(`TableDecl.IsWritable`) if none of these rules is in its way and if none of its
texts has a separator, or a blank at an end, where the reader would notice. Every
writable declaration is read back from its written form
(`TableDecl.parse_written`), however many columns, options and indexes it has.

The written form is made with three separators, one inside the other, so the
proof goes from the inside outwards: an option, a column, the table. On each level
the cuts are where the separators were put, and nothing is trimmed.
-/

namespace SchemaPlan

namespace Text

/-! ## Texts that trimming leaves alone -/

/-- The text does not begin with a blank. -/
def StartsPlain (s : String) : Prop :=
  ∀ c ∈ s.toList.head?, isBlank c = false

/-- The text does not end with a blank. -/
def EndsPlain (s : String) : Prop :=
  ∀ c ∈ s.toList.getLast?, isBlank c = false

/-- **The text has no blank at its ends.** -/
def IsTrimmed (s : String) : Prop :=
  StartsPlain s ∧ EndsPlain s

-- the instances are named, as all characters may be enumerated for want of a better one
instance (s : String) : Decidable (StartsPlain s) :=
  Option.decidableForallMem s.toList.head?

instance (s : String) : Decidable (EndsPlain s) :=
  Option.decidableForallMem s.toList.getLast?

instance (s : String) : Decidable (IsTrimmed s) :=
  inferInstanceAs (Decidable (_ ∧ _))

variable {s t : String} {cs : List Char}

theorem dropWhile_isBlank_eq_self (h : ∀ c ∈ cs.head?, isBlank c = false) :
    cs.dropWhile isBlank = cs := by
  cases cs with
  | nil => rfl
  | cons c rest =>
    have plain : isBlank c = false := h c rfl
    rw [List.dropWhile_cons_of_neg (by rw [plain]; exact Bool.false_ne_true)]

/-- Without blanks at its ends a text is trimmed already. -/
theorem trim_eq_self (h : IsTrimmed s) : trim s = s := by
  have last : ∀ c ∈ s.toList.reverse.head?, isBlank c = false := by
    rw [List.head?_reverse]
    exact h.2
  rw [trim, trimChars, dropWhile_isBlank_eq_self h.1, dropWhile_isBlank_eq_self last,
    List.reverse_reverse, String.ofList_toList]

/-- Parts without blanks at their ends are not changed by the trimming that the
reader does. -/
theorem map_trim_eq_self {parts : List String} (h : ∀ part ∈ parts, IsTrimmed part) :
    parts.map trim = parts :=
  (List.map_congr_left fun part member => trim_eq_self (h part member)).trans (List.map_id parts)

theorem filter_nonempty_eq_self {parts : List String} (h : ∀ part ∈ parts, part ≠ "") :
    parts.filter (fun part => !part.isEmpty) = parts := by
  rw [List.filter_eq_self]
  intro part member
  rw [String.isEmpty_eq_false_iff.2 (h part member)]
  rfl

theorem StartsPlain.append_of_ne (h : StartsPlain s) (nonempty : s ≠ "") (t : String) :
    StartsPlain (s ++ t) := by
  have chars : s.toList ≠ [] := fun none => nonempty (String.toList_injective none)
  intro c hc
  rw [String.toList_append, List.head?_append_of_ne_nil _ chars] at hc
  exact h c hc

theorem EndsPlain.append (h : EndsPlain s) (h' : EndsPlain t) : EndsPlain (s ++ t) := by
  intro c hc
  rw [String.toList_append, List.getLast?_append] at hc
  cases last : t.toList.getLast? with
  | none =>
    rw [last, Option.none_or] at hc
    exact h c hc
  | some d =>
    rw [last, Option.some_or] at hc
    exact h' c (last.trans hc)

theorem IsTrimmed.append (h : IsTrimmed s) (h' : IsTrimmed t) : IsTrimmed (s ++ t) := by
  refine ⟨?_, h.2.append h'.2⟩
  by_cases empty : s = ""
  · rw [empty, String.empty_append]
    exact h'.1
  · exact h.1.append_of_ne empty t

/-- **Texts without blanks at their ends have none when they are joined**, if
the separator has none either. All that is written is put together in this way.
-/
theorem IsTrimmed.intercalate {separator : String} (between : IsTrimmed separator)
    {parts : List String} (h : ∀ part ∈ parts, IsTrimmed part) :
    IsTrimmed (separator.intercalate parts) := by
  induction parts with
  | nil => exact ⟨nofun, nofun⟩
  | cons part later ih =>
    have first := h part List.mem_cons_self
    by_cases last : later = []
    · rw [last, String.intercalate_singleton]
      exact first
    · rw [String.intercalate_cons_of_ne_nil last]
      exact (first.append between).append
        (ih fun other member => h other (List.mem_cons_of_mem part member))

theorem isBlank_of_isIdentifierRest {c : Char} (h : isIdentifierRest c = true) :
    isBlank c = false := by
  rw [isIdentifierRest, Bool.or_eq_true, beq_iff_eq] at h
  cases h with
  | inl plain => exact isBlank_of_isAlphanum plain
  | inr under => rw [under]; decide

/-- A word has no blanks at all. -/
theorem isTrimmed_of_isWord (h : IsWord s) : IsTrimmed s :=
  ⟨fun c hc => isBlank_of_isIdentifierRest (h c (List.mem_of_mem_head? hc)),
    fun c hc => isBlank_of_isIdentifierRest (h c (List.mem_of_mem_getLast? hc))⟩

/-! ## Cuts -/

/-- **Parts without the separator are cut where it was put between them.**
There has to be a part: joining none gives the empty text, which has one piece.
-/
theorem pieces_intercalate {separator : Char} {parts : List String}
    (h : ∀ part ∈ parts, separator ∉ part.toList) (nonempty : parts ≠ []) :
    pieces separator ((String.singleton separator).intercalate parts) = parts := by
  have free : ∀ chars ∈ parts.map String.toList, separator ∉ chars := by
    intro chars member
    obtain ⟨part, hp, rfl⟩ := List.mem_map.1 member
    exact h part hp
  rw [pieces, String.toList_intercalate, String.toList_singleton,
    List.splitOn_intercalate separator free (by simpa using nonempty), List.map_map]
  refine (List.map_congr_left fun part _ => ?_).trans (List.map_id parts)
  exact String.ofList_toList

end Text

/-! ## Options in a list -/

namespace Options

/-- A set of options is its entries; that they ascend is a property and no
further part. -/
theorem eq_of_entries_eq {a b : Options} (h : a.entries = b.entries) : a = b := by
  obtain ⟨first, ascendingA⟩ := a
  obtain ⟨second, ascendingB⟩ := b
  have equal : first = second := h
  subst equal
  rfl

/-- An option with a later name than all others goes to the end. That is where
each option goes when the entries of a set, which ascend, are added one by one.
-/
theorem insertEntry_of_lt {key : String} {value : OptionValue}
    {entries : List (String × OptionValue)} (h : ∀ e ∈ entries, e.1 < key) :
    insertEntry key value entries = entries ++ [(key, value)] := by
  induction entries with
  | nil => rfl
  | cons e rest ih =>
    have before : e.1 < key := h e List.mem_cons_self
    have notAfter : ¬ key < e.1 := String.not_lt.2 (Std.le_of_lt before)
    rw [insertEntry, if_neg notAfter, if_pos before,
      ih fun d hd => h d (List.mem_cons_of_mem e hd)]
    rfl

/-- Options that are added in ascending order stand in this order, so adding
the options of a column to none gives its options. -/
theorem entries_foldl_insert {before : Options} {later : List (String × OptionValue)}
    (ascending : (before.entries ++ later).Pairwise (fun a b => a.1 < b.1)) :
    (later.foldl (fun options e => options.insert e.1 e.2) before).entries =
      before.entries ++ later := by
  induction later generalizing before with
  | nil => exact (List.append_nil before.entries).symm
  | cons e rest ih =>
    have smaller : ∀ d ∈ before.entries, d.1 < e.1 := fun d hd =>
      (List.pairwise_append.1 ascending).2.2 d hd e List.mem_cons_self
    have inserted : (before.insert e.1 e.2).entries = before.entries ++ [e] :=
      insertEntry_of_lt smaller
    have whole : (before.insert e.1 e.2).entries ++ rest = before.entries ++ e :: rest := by
      rw [inserted, List.append_assoc]
      rfl
    rw [List.foldl_cons, ih (whole ▸ ascending), whole]

/-- **Options are the list of their entries.** So it suffices that each entry
is read back for itself. -/
theorem ofList_entries (options : Options) : ofList options.entries = options :=
  eq_of_entries_eq (@entries_foldl_insert empty options.entries options.ascending)

end Options

/-! ## What can be written -/

/-- **A name that an option can be written with**: a text without blanks at its
ends that has neither a separator nor an equals sign. -/
structure IsOptionName (key : String) : Prop where
  /-- There is a name. -/
  nonempty : key ≠ ""
  /-- There are no blanks at its ends. -/
  trimmed : Text.IsTrimmed key
  /-- It is read as a name to its end. -/
  free : Text.Consists (fun c => c ≠ ',' ∧ c ≠ ':' ∧ c ≠ '=') key

instance (key : String) : Decidable (IsOptionName key) :=
  decidable_of_iff (key ≠ "" ∧ Text.IsTrimmed key ∧
      Text.Consists (fun c => c ≠ ',' ∧ c ≠ ':' ∧ c ≠ '=') key)
    ⟨fun h => ⟨h.1, h.2.1, h.2.2⟩, fun h => ⟨h.nonempty, h.trimmed, h.free⟩⟩

namespace OptionValue

/-- **An option that can be written** with the given name for a column of the
given kind. A flag is not mistaken for a length. A text has no separator and no
blank at its end, and it is not what the reader takes for a list. A list is one of
the values of an enumeration, and none of its items is empty, has blanks at its
ends, or has a separator. -/
def IsWritable (kind : ColumnKind) (key : String) : OptionValue → Prop
  | flag => ¬ (kind.acceptsLength = true ∧ Text.areDigits key.toList = true)
  | value text => Text.Consists (fun c => c ≠ ',' ∧ c ≠ ':') text ∧ Text.EndsPlain text ∧
      ¬ (kind = .enum ∧ key = "values")
  | list items => kind = .enum ∧ key = "values" ∧ ∀ item ∈ items, item ≠ "" ∧
      Text.IsTrimmed item ∧ Text.Consists (fun c => c ≠ ',' ∧ c ≠ ':' ∧ c ≠ '|') item

instance (kind : ColumnKind) (key : String) (option : OptionValue) :
    Decidable (option.IsWritable kind key) :=
  match option with
  | flag => inferInstanceAs (Decidable (¬ _))
  | value _ => inferInstanceAs (Decidable (_ ∧ _ ∧ ¬ _))
  | list items => inferInstanceAs (Decidable (_ ∧ _ ∧ ∀ item ∈ items, _ ∧ _ ∧ _))

end OptionValue

namespace ColumnDecl

/-- **A column that can be written**: its name is an identifier and no word for an
index, a kind that is not declared is the default, and so on for each option. -/
structure IsWritable (column : ColumnDecl) : Prop where
  /-- The name is an identifier. -/
  named : isIdentifier column.name = true
  /-- The column is not mistaken for an index. -/
  distinct : ∀ kind : IndexKind, column.name ≠ kind.keyword
  /-- What is not declared is the default. -/
  default : column.kindDeclared = false → column.kind = .string
  /-- The options have names that can be written. -/
  keys : ∀ e ∈ column.options.entries, IsOptionName e.1
  /-- The options can be written. -/
  options : ∀ e ∈ column.options.entries, e.2.IsWritable column.kind e.1

instance (column : ColumnDecl) : Decidable column.IsWritable :=
  decidable_of_iff (isIdentifier column.name = true ∧
      (column.name ≠ IndexKind.unique.keyword ∧ column.name ≠ IndexKind.plain.keyword) ∧
      (column.kindDeclared = false → column.kind = .string) ∧
      (∀ e ∈ column.options.entries, IsOptionName e.1) ∧
      ∀ e ∈ column.options.entries, e.2.IsWritable column.kind e.1)
    ⟨fun ⟨named, distinct, default, keys, options⟩ =>
      ⟨named, fun | .unique => distinct.1 | .plain => distinct.2, default, keys, options⟩,
      fun h => ⟨h.named, ⟨h.distinct .unique, h.distinct .plain⟩, h.default, h.keys, h.options⟩⟩

end ColumnDecl

/-- **An index that can be written**: it has no name of its own, and its columns,
of which there is one at least, have names of letters, digits and underscores. -/
structure CompositeIndex.IsWritable (index : CompositeIndex) : Prop where
  /-- The name is left to the database. -/
  unnamed : index.name = none
  /-- There is a column. -/
  nonempty : index.columns ≠ []
  /-- The columns have names. -/
  named : ∀ column ∈ index.columns, column ≠ ""
  /-- The names of the columns are words. -/
  words : ∀ column ∈ index.columns, IsWord column

instance (index : CompositeIndex) : Decidable index.IsWritable :=
  decidable_of_iff (index.name = none ∧ index.columns ≠ [] ∧
      (∀ column ∈ index.columns, column ≠ "") ∧ ∀ column ∈ index.columns, IsWord column)
    ⟨fun h => ⟨h.1, h.2.1, h.2.2.1, h.2.2.2⟩, fun h => ⟨h.unnamed, h.nonempty, h.named, h.words⟩⟩

/-- **A table that can be written.** What is excluded could be declared in no
text, or would be read as something else. -/
structure TableDecl.IsWritable (table : TableDecl) : Prop where
  /-- The name is an identifier. -/
  named : isIdentifier table.name = true
  /-- The columns have different names. -/
  distinct : table.columnNames.Nodup
  /-- The columns can be written. -/
  columns : ∀ column ∈ table.columns, column.IsWritable
  /-- The indexes can be written. -/
  indexes : ∀ index ∈ table.indexes, index.IsWritable

instance (table : TableDecl) : Decidable table.IsWritable :=
  decidable_of_iff (isIdentifier table.name = true ∧ table.columnNames.Nodup ∧
      (∀ column ∈ table.columns, column.IsWritable) ∧ ∀ index ∈ table.indexes, index.IsWritable)
    ⟨fun h => ⟨h.1, h.2.1, h.2.2.1, h.2.2.2⟩,
      fun h => ⟨h.named, h.distinct, h.columns, h.indexes⟩⟩

/-! ## Tokens -/

/-- **A text that is one token**: it has no comma in it and no blanks at its
ends. A text with nothing in it would be skipped. -/
structure IsToken (s : String) : Prop where
  /-- It is not cut. -/
  free : ',' ∉ s.toList
  /-- It is not trimmed. -/
  trimmed : Text.IsTrimmed s
  /-- It is not skipped. -/
  nonempty : s ≠ ""

instance (s : String) : Decidable (IsToken s) :=
  decidable_of_iff (',' ∉ s.toList ∧ Text.IsTrimmed s ∧ s ≠ "")
    ⟨fun h => ⟨h.1, h.2.1, h.2.2⟩, fun h => ⟨h.free, h.trimmed, h.nonempty⟩⟩

theorem comma_notMem_of_isWord {s : String} (h : IsWord s) : ',' ∉ s.toList :=
  fun comma => absurd (h ',' comma) (by decide)

theorem colon_notMem_of_isWord {s : String} (h : IsWord s) : ':' ∉ s.toList :=
  fun colon => absurd (h ':' colon) (by decide)

/-- A word is a token: it has no comma, at which it would be cut, and no
blanks, which would be trimmed off. -/
theorem IsToken.of_isWord {s : String} (h : IsWord s) (nonempty : s ≠ "") : IsToken s :=
  ⟨comma_notMem_of_isWord h, Text.isTrimmed_of_isWord h, nonempty⟩

theorem ne_empty_of_mem {c : Char} {s : String} (h : c ∈ s.toList) : s ≠ "" := by
  rintro rfl
  cases h

theorem colon_mem_append (before after : String) : ':' ∈ (before ++ ":" ++ after).toList := by
  rw [String.toList_append, String.toList_append]
  exact List.mem_append_left _ (List.mem_append_right _ (List.mem_singleton.2 rfl))

/-- **Tokens with commas between them are read one by one.** A token is not
empty and has no blanks at its ends, so neither of the things that a reader
does to it changes it. -/
theorem TableDecl.tokens_intercalate {parts : List String} (h : ∀ part ∈ parts, IsToken part)
    (nonempty : parts ≠ []) : tokens (",".intercalate parts) = parts := by
  have cut : Text.pieces ',' (",".intercalate parts) = parts :=
    Text.pieces_intercalate (fun part member => (h part member).free) nonempty
  rw [tokens, cut, Text.map_trim_eq_self fun part member => (h part member).trimmed]
  exact Text.filter_nonempty_eq_self fun part member => (h part member).nonempty

/-! ## Options -/

namespace OptionValue

variable {kind : ColumnKind} {key : String} {option : OptionValue}

theorem startsPlain_written (named : IsOptionName key) (option : OptionValue) :
    Text.StartsPlain (option.written key) := by
  have start := named.trimmed.1
  cases option with
  | flag => exact start
  | value text =>
    show Text.StartsPlain (key ++ "=" ++ text)
    rw [String.append_assoc]
    exact start.append_of_ne named.nonempty _
  | list items =>
    show Text.StartsPlain (key ++ "=" ++ "|".intercalate items)
    rw [String.append_assoc]
    exact start.append_of_ne named.nonempty _

theorem endsPlain_written (named : IsOptionName key) (h : option.IsWritable kind key) :
    Text.EndsPlain (option.written key) := by
  have equals : Text.EndsPlain (key ++ "=") := named.trimmed.2.append (by decide)
  cases option with
  | flag => exact named.trimmed.2
  | value text => exact equals.append h.2.1
  | list items =>
    have listed : Text.IsTrimmed ("|".intercalate items) :=
      .intercalate (by decide) fun item member => (h.2.2 item member).2.1
    exact equals.append listed.2

/-- **An option is written without blanks at its ends**, which needs its name
to be a proper one and its text to be writable. -/
theorem isTrimmed_written (named : IsOptionName key) (h : option.IsWritable kind key) :
    Text.IsTrimmed (option.written key) :=
  ⟨startsPlain_written named option, endsPlain_written named h⟩

/-- An option is written without the separators of columns and of their parts.
Other signs, the equals sign among them, may occur in its text. -/
theorem consists_written (named : IsOptionName key) (h : option.IsWritable kind key) :
    Text.Consists (fun c => c ≠ ',' ∧ c ≠ ':') (option.written key) := by
  have name : Text.Consists (fun c => c ≠ ',' ∧ c ≠ ':') key :=
    named.free.imp fun _ free => ⟨free.1, free.2.1⟩
  have equals := name.append (by decide : Text.Consists (fun c => c ≠ ',' ∧ c ≠ ':') "=")
  cases option with
  | flag => exact name
  | value text => exact equals.append h.1
  | list items =>
    refine equals.append ?_
    rw [← List.map_id items]
    exact .intercalate (by decide) fun item member =>
      (h.2.2 item member).2.2.imp fun _ free => ⟨free.1, free.2.1⟩

/-- An option is not written as nothing, which the reader would pass over. -/
theorem written_ne_empty (named : IsOptionName key) (option : OptionValue) :
    option.written key ≠ "" := by
  have chars : ∀ tail : String, key ++ tail ≠ "" := fun tail empty =>
    named.nonempty (String.append_eq_empty_iff.1 empty).1
  cases option with
  | flag => exact named.nonempty
  | value text =>
    show key ++ "=" ++ text ≠ ""
    rw [String.append_assoc]
    exact chars _
  | list items =>
    show key ++ "=" ++ "|".intercalate items ≠ ""
    rw [String.append_assoc]
    exact chars _

/-- An option is not mistaken for a length. A text or a list is written with an
equals sign, which is no digit, and a flag that would be a length cannot be
written. -/
theorem areDigits_written (h : option.IsWritable kind key) :
    (kind.acceptsLength && Text.areDigits (option.written key).toList) = false := by
  have equals : ∀ tail, Text.areDigits (key ++ "=" ++ tail).toList = false := by
    intro tail
    have found : '=' ∈ (key ++ "=" ++ tail).toList := by
      rw [String.toList_append, String.toList_append]
      exact List.mem_append_left _ (List.mem_append_right _ (List.mem_singleton.2 rfl))
    rw [Text.areDigits, Bool.and_eq_false_iff]
    exact .inr (List.all_eq_false.2 ⟨'=', found, by decide⟩)
  cases option with
  | flag => exact Bool.eq_false_iff.2 fun both => h (Bool.and_eq_true_iff.1 both)
  | value text => exact Bool.and_eq_false_iff.2 (.inr (equals text))
  | list items => exact Bool.and_eq_false_iff.2 (.inr (equals _))

/-- The items of a list are cut where the bars were put. -/
theorem items_intercalate {items : List String} (h : ∀ item ∈ items, item ≠ "" ∧
    Text.IsTrimmed item ∧ Text.Consists (fun c => c ≠ ',' ∧ c ≠ ':' ∧ c ≠ '|') item) :
    (((Text.pieces '|' ("|".intercalate items)).map Text.trim).filter
      fun item => !item.isEmpty) = items := by
  by_cases nothing : items = []
  · subst nothing
    decide
  · have cut : Text.pieces '|' ("|".intercalate items) = items :=
      Text.pieces_intercalate (fun item member bar => ((h item member).2.2 '|' bar).2.2 rfl) nothing
    rw [cut, Text.map_trim_eq_self fun item member => (h item member).2.1]
    exact Text.filter_nonempty_eq_self fun item member => (h item member).1

/-- **An option is read back from its written form.** It is cut at its first
equals sign, and its name has none, so the text may. -/
theorem readOption_written (named : IsOptionName key) (h : option.IsWritable kind key) :
    TableDecl.readOption kind (option.written key) = (key, option) := by
  have free : '=' ∉ key.toList := fun found => (named.free '=' found).2.2 rfl
  have cut : ∀ text, Text.cutAt? '=' (key ++ "=" ++ text) = some (key, text) :=
    Text.cutAt?_append free
  unfold TableDecl.readOption
  cases option with
  | flag =>
    rw [written, Text.cutAt?_eq_none free]
  | value text =>
    have other : ¬ (kind == .enum && key == "values") = true := by
      rw [Bool.and_eq_true, beq_iff_eq, beq_iff_eq]
      exact h.2.2
    rw [written, cut]
    exact if_neg other
  | list items =>
    obtain ⟨rfl, rfl, each⟩ := h
    rw [written, cut]
    show ("values", list (((Text.pieces '|' ("|".intercalate items)).map Text.trim).filter
      fun item => !item.isEmpty)) = ("values", list items)
    rw [items_intercalate each]

end OptionValue

/-! ## Columns -/

namespace ColumnDecl

variable {column : ColumnDecl}

theorem isWord_name_kind (kind : ColumnKind) : IsWord kind.name := by
  cases kind <;> decide

theorem consists_of_isWord {s : String} (h : IsWord s) :
    Text.Consists (fun c => c ≠ ',' ∧ c ≠ ':') s :=
  h.imp fun c rest => ⟨fun same => absurd (same ▸ rest) (by decide),
    fun same => absurd (same ▸ rest) (by decide)⟩

/-- The parts of a column have no separators and no blanks at their ends. This
is all that cutting a column needs to know of them. -/
theorem plain_of_mem_parts (h : column.IsWritable) {part : String} (member : part ∈ column.parts) :
    Text.Consists (fun c => c ≠ ',' ∧ c ≠ ':') part ∧ Text.IsTrimmed part := by
  have word {s : String} (word : IsWord s) :
      Text.Consists (fun c => c ≠ ',' ∧ c ≠ ':') s ∧ Text.IsTrimmed s :=
    ⟨consists_of_isWord word, Text.isTrimmed_of_isWord word⟩
  rw [parts, List.mem_cons, List.mem_cons, List.mem_map] at member
  obtain rfl | rfl | ⟨e, he, rfl⟩ := member
  · exact word (isWord_of_isIdentifier h.named)
  · split
    · exact word (isWord_name_kind column.kind)
    · exact word (by decide)
  · exact ⟨OptionValue.consists_written (h.keys e he) (h.options e he),
      OptionValue.isTrimmed_written (h.keys e he) (h.options e he)⟩

@[simp] theorem parts_ne_nil (column : ColumnDecl) : column.parts ≠ [] :=
  List.cons_ne_nil _ _

/-- **A column is cut into its parts.** -/
theorem segments_written (h : column.IsWritable) :
    TableDecl.segments column.written = column.parts := by
  have free : ∀ part ∈ column.parts, ':' ∉ part.toList := fun part member colon =>
    ((plain_of_mem_parts h member).1 ':' colon).2 rfl
  have cut : Text.pieces ':' column.written = column.parts :=
    Text.pieces_intercalate free column.parts_ne_nil
  rw [TableDecl.segments, cut]
  exact Text.map_trim_eq_self fun part member => (plain_of_mem_parts h member).2

/-- No option of the column is taken for its length. -/
theorem takeLength_written (h : column.IsWritable) :
    TableDecl.takeLength column.kind
        (column.options.entries.map fun (key, value) => value.written key) =
      (none, column.options.entries.map fun (key, value) => value.written key) := by
  have options := h.options
  cases entries : column.options.entries with
  | nil => rfl
  | cons e later =>
    rw [entries] at options
    have unlike := OptionValue.areDigits_written (options e List.mem_cons_self)
    rw [List.map_cons, TableDecl.takeLength, unlike]
    rfl

/-- **The options of a column are read back from their written forms.** -/
theorem readOptions_written (h : column.IsWritable) :
    TableDecl.readOptions column.kind
        (column.options.entries.map fun (key, value) => value.written key) = column.options := by
  have filled : (column.options.entries.map fun (key, value) => value.written key).filter
      (fun segment => !segment.isEmpty) =
        column.options.entries.map fun (key, value) => value.written key := by
    refine Text.filter_nonempty_eq_self fun segment member => ?_
    obtain ⟨e, he, rfl⟩ := List.mem_map.1 member
    exact OptionValue.written_ne_empty (h.keys e he) e.2
  have read : (column.options.entries.map fun (key, value) => value.written key).map
      (TableDecl.readOption column.kind) = column.options.entries := by
    rw [List.map_map]
    refine (List.map_congr_left fun e he => ?_).trans (List.map_id _)
    exact OptionValue.readOption_written (h.keys e he) (h.options e he)
  rw [TableDecl.readOptions, takeLength_written h]
  dsimp only
  rw [filled, read]
  exact Options.ofList_entries column.options

/-- **A column is read back from its written form**, by the rules of the
grammar and not by running the reader, so the order in which the reader tries
things plays no part. -/
theorem declaresColumn_written (h : column.IsWritable) :
    TableDecl.DeclaresColumn column.written column := by
  have denoted : TableDecl.DenotesKind
      (some (if column.kindDeclared then column.kind.name else "")) column.kind
      column.kindDeclared := by
    cases declared : column.kindDeclared with
    | true =>
      refine .written ?_ (beq_self_eq_true _)
      cases column.kind <;> decide
    | false =>
      rw [h.default declared]
      exact .empty
  have cut := segments_written h
  have declares := @TableDecl.DeclaresColumn.intro column.written column.name _ _ _ cut h.named
    denoted
  rw [List.tail_cons, readOptions_written h] at declares
  exact declares

/-- A column begins with its name and a colon, be its kind written or not. So a
column called `timestamps` is no flag. -/
theorem exists_written (column : ColumnDecl) :
    ∃ after, column.written = column.name ++ ":" ++ after :=
  ⟨_, String.intercalate_cons_of_ne_nil (List.cons_ne_nil _ _)⟩

theorem colon_mem_written (column : ColumnDecl) : ':' ∈ column.written.toList := by
  obtain ⟨after, whole⟩ := column.exists_written
  rw [whole]
  exact colon_mem_append column.name after

theorem isToken_written (h : column.IsWritable) : IsToken column.written where
  free := by
    have free : Text.Consists (· ≠ ',') (":".intercalate (column.parts.map id)) :=
      .intercalate (by decide) fun part member =>
        (plain_of_mem_parts h member).1.imp fun _ free => free.1
    rw [List.map_id] at free
    exact fun comma => free ',' comma rfl
  trimmed := .intercalate (by decide) fun _ member => (plain_of_mem_parts h member).2
  nonempty := ne_empty_of_mem column.colon_mem_written

end ColumnDecl

/-! ## Indexes -/

namespace CompositeIndex

variable {index : CompositeIndex}

theorem isWord_keyword (kind : IndexKind) : IsWord kind.keyword := by
  cases kind <;> decide

/-- The columns of an index are written with letters, digits, underscores and
bars. -/
theorem consists_columns (h : index.IsWritable) :
    Text.Consists (fun c => c.isAlphanum = true ∨ c = '_' ∨ c = '|')
      ("|".intercalate index.columns) := by
  rw [← List.map_id index.columns]
  refine .intercalate (by decide) fun column member => (h.words column member).imp fun c rest => ?_
  rw [isIdentifierRest, Bool.or_eq_true, beq_iff_eq] at rest
  exact rest.imp_right .inl

/-- **An index is read back from its written form.** It has a column, for one
without would be written like a column without a kind. -/
theorem declaresIndex_written (h : index.IsWritable) :
    TableDecl.DeclaresIndex index.written index := by
  obtain ⟨kind, columns, name⟩ := index
  have unnamed : name = none := h.unnamed
  subst unnamed
  have free : ∀ column ∈ columns, '|' ∉ column.toList := fun column member bar =>
    absurd (h.words column member '|' bar) (by decide)
  have cut : Text.pieces '|' ("|".intercalate columns) = columns :=
    Text.pieces_intercalate free h.nonempty
  have filled : columns.filter (fun name => !name.isEmpty) = columns :=
    Text.filter_nonempty_eq_self h.named
  have listed : "|".intercalate columns ≠ "" := by
    obtain ⟨first, later, rfl⟩ := List.exists_cons_of_ne_nil h.nonempty
    intro empty
    rw [empty] at cut
    exact h.named first List.mem_cons_self (List.cons.inj cut).1.symm
  have declares := TableDecl.DeclaresIndex.intro kind listed (consists_columns h)
  rw [cut, filled] at declares
  exact declares

theorem isToken_written (h : index.IsWritable) : IsToken index.written where
  free := by
    have keyword : Text.Consists (· ≠ ',') index.kind.keyword :=
      (isWord_keyword index.kind).imp fun c rest same => absurd (same ▸ rest) (by decide)
    have columns : Text.Consists (· ≠ ',') ("|".intercalate index.columns) :=
      (consists_columns h).imp fun c sort same => absurd (same ▸ sort) (by decide)
    exact fun comma => (keyword.append (by decide)).append columns ',' comma rfl
  trimmed := by
    have columns : Text.IsTrimmed ("|".intercalate index.columns) :=
      .intercalate (by decide) fun column member =>
        Text.isTrimmed_of_isWord (h.words column member)
    exact ((Text.isTrimmed_of_isWord (isWord_keyword index.kind)).append (by decide)).append columns
  nonempty := ne_empty_of_mem (colon_mem_append index.kind.keyword _)

end CompositeIndex

/-! ## Tables -/

namespace TableDecl

variable {table : TableDecl}

/-- A token without a colon declares no index, so flags are never taken for
one. -/
theorem not_isIndexToken_of_colon_notMem {token : String} (h : ':' ∉ token.toList) :
    ¬ IsIndexToken token := by
  rintro ⟨_, declares⟩
  cases declares
  exact h (colon_mem_append _ _)

/-- A text in front of a colon is no index unless it is a word for one. -/
theorem not_isIndexToken_append {before : String} (colon : ':' ∉ before.toList)
    (other : ∀ kind : IndexKind, before ≠ kind.keyword) (after : String) :
    ¬ IsIndexToken (before ++ ":" ++ after) := by
  rintro ⟨_, declares⟩
  generalize token : before ++ ":" ++ after = written at declares
  obtain ⟨kind, nonempty, chars⟩ := declares
  rename_i columns
  have here : Text.cutAt? ':' (before ++ ":" ++ after) = some (before, after) :=
    Text.cutAt?_append colon after
  have there : Text.cutAt? ':' (kind.keyword ++ ":" ++ columns) = some (kind.keyword, columns) :=
    Text.cutAt?_append kind.colon_notMem_keyword columns
  rw [token, there] at here
  exact other kind (congrArg Prod.fst (Option.some.inj here)).symm

/-- **A written column is not taken for an index**, because the name of a
writable column is not a keyword of one: `index:text` would be an index of the
column `text`. -/
theorem not_isIndexToken_written {column : ColumnDecl} (h : column.IsWritable) :
    ¬ IsIndexToken column.written := by
  obtain ⟨after, whole⟩ := column.exists_written
  rw [whole]
  exact not_isIndexToken_append (colon_notMem_of_isWord (isWord_of_isIdentifier h.named))
    h.distinct after

/-- A column is not mistaken for a flag, because a flag has no colon. -/
theorem isFlag_written (column : ColumnDecl) : isFlag column.written = false := by
  refine Bool.eq_false_iff.2 fun flag => ?_
  have colon := column.colon_mem_written
  cases isFlag_iff.1 flag with
  | inl soft => exact absurd (soft ▸ colon) (by decide)
  | inr stamps => exact absurd (stamps ▸ colon) (by decide)

/-- The columns and the flags of a table, as they are written. -/
def writtenBody (table : TableDecl) : List String :=
  table.columns.map ColumnDecl.written ++ table.flags.written

/-- The flags are written just where they are set. -/
theorem mem_written_flags {flags : TableFlags} {token : String} :
    token ∈ flags.written ↔ token = "softDeletes" ∧ flags.softDeletes = true ∨
      token = "timestamps" ∧ flags.timestamps = true := by
  obtain ⟨softDeletes, timestamps⟩ := flags
  cases softDeletes <;> cases timestamps <;> simp [TableFlags.written]

theorem mem_writtenBody_of_isFlag {token : String} (h : isFlag token = true) :
    token ∈ table.writtenBody ↔ token ∈ table.flags.written := by
  rw [writtenBody, List.mem_append, or_iff_right]
  intro member
  obtain ⟨column, _, rfl⟩ := List.mem_map.1 member
  rw [isFlag_written column] at h
  cases h

theorem isFlag_of_mem_written {flags : TableFlags} {token : String} (h : token ∈ flags.written) :
    isFlag token = true := by
  obtain ⟨rfl, _⟩ | ⟨rfl, _⟩ := mem_written_flags.1 h
  · rfl
  · rfl

/-- What stands between the name of a table and its indexes is a token, and is
no index. -/
theorem isToken_of_mem_writtenBody (h : table.IsWritable) {token : String}
    (member : token ∈ table.writtenBody) : IsToken token ∧ ¬ IsIndexToken token := by
  obtain columns | flag := List.mem_append.1 member
  · obtain ⟨column, hc, rfl⟩ := List.mem_map.1 columns
    exact ⟨ColumnDecl.isToken_written (h.columns column hc),
      not_isIndexToken_written (h.columns column hc)⟩
  · obtain ⟨rfl, _⟩ | ⟨rfl, _⟩ := mem_written_flags.1 flag
    · exact ⟨by decide, not_isIndexToken_of_colon_notMem (by decide)⟩
    · exact ⟨by decide, not_isIndexToken_of_colon_notMem (by decide)⟩

/-- **A table is cut into its name, its columns, its flags and its indexes.**
The three statements after it say what becomes of each of these tokens. -/
theorem tokens_written (h : table.IsWritable) :
    tokens table.written =
      table.name :: (table.writtenBody ++ table.indexes.map CompositeIndex.written) := by
  refine tokens_intercalate (fun part member => ?_) (List.cons_ne_nil _ _)
  rw [List.mem_cons, ← writtenBody, List.mem_append, List.mem_map] at member
  obtain rfl | body | ⟨index, hi, rfl⟩ := member
  · exact .of_isWord (isWord_of_isIdentifier h.named) (ne_empty_of_isIdentifier h.named)
  · exact (isToken_of_mem_writtenBody h body).1
  · exact CompositeIndex.isToken_written (h.indexes index hi)

/-- The indexes of a table are read back. -/
theorem filterMap_readIndex?_written (h : table.IsWritable) :
    (tokens table.written).filterMap readIndex? = table.indexes := by
  have unread {token : String} (other : ¬ IsIndexToken token) : readIndex? token = none := by
    rw [← isSome_readIndex?_iff, Bool.not_eq_true, Option.isSome_eq_false_iff,
      Option.isNone_iff_eq_none] at other
    exact other
  have name : readIndex? table.name = none :=
    unread (not_isIndexToken_of_colon_notMem
      (colon_notMem_of_isWord (isWord_of_isIdentifier h.named)))
  have body : table.writtenBody.filterMap readIndex? = [] :=
    List.filterMap_eq_nil_iff.2 fun token member =>
      unread (isToken_of_mem_writtenBody h member).2
  have indexes : (table.indexes.map CompositeIndex.written).filterMap readIndex? =
      table.indexes := by
    rw [List.filterMap_map]
    refine (List.filterMap_congr fun index hi => ?_).trans List.filterMap_some
    exact readIndex?_eq_some_iff.2 (CompositeIndex.declaresIndex_written (h.indexes index hi))
  rw [tokens_written h, List.filterMap_cons_none name, List.filterMap_append, body, indexes,
    List.nil_append]

/-- The body of a written table begins with its name. -/
theorem hasBody_written (h : table.IsWritable) :
    HasBody table.written table.name table.name table.writtenBody := by
  have whole : ':' ∉ table.name.toList :=
    colon_notMem_of_isWord (isWord_of_isIdentifier h.named)
  have name : ¬ IsIndexToken table.name := not_isIndexToken_of_colon_notMem whole
  have body : (table.writtenBody.filter fun token => ¬ IsIndexToken token) = table.writtenBody := by
    rw [List.filter_eq_self]
    exact fun token member => decide_eq_true (isToken_of_mem_writtenBody h member).2
  have indexes : ((table.indexes.map CompositeIndex.written).filter
      fun token => ¬ IsIndexToken token) = [] := by
    rw [List.filter_eq_nil_iff]
    intro token member
    obtain ⟨index, hi, rfl⟩ := List.mem_map.1 member
    have here : IsIndexToken index.written :=
      ⟨index, CompositeIndex.declaresIndex_written (h.indexes index hi)⟩
    exact fun other => of_decide_eq_true other here
  have found : bodyTokens table.written = table.name :: table.writtenBody := by
    rw [bodyTokens, tokens_written h, List.filter_cons_of_pos (by exact decide_eq_true name),
      List.filter_append, body, indexes, List.append_nil]
  exact @HasBody.intro _ _ _ [] _ found (.bare whole)

/-- The columns of the body are those of the table. -/
theorem columnTokens_writtenBody (table : TableDecl) :
    columnTokens table.writtenBody = table.columns.map ColumnDecl.written := by
  have columns : (table.columns.map ColumnDecl.written).filter (fun token => !isFlag token) =
      table.columns.map ColumnDecl.written := by
    rw [List.filter_eq_self]
    intro token member
    obtain ⟨column, _, rfl⟩ := List.mem_map.1 member
    rw [isFlag_written column]
    rfl
  have flags : table.flags.written.filter (fun token => !isFlag token) = [] := by
    rw [List.filter_eq_nil_iff]
    intro token member
    rw [isFlag_of_mem_written member]
    exact Bool.false_ne_true
  rw [columnTokens, writtenBody, List.filter_append, columns, flags, List.append_nil]

/-- A column of a new name goes to the end, so columns of different names stay
in their order. -/
theorem putColumn_of_notMem {column : ColumnDecl} {columns : List ColumnDecl}
    (h : column.name ∉ columns.map fun c => c.name) :
    putColumn column columns = columns ++ [column] := by
  induction columns with
  | nil => rfl
  | cons first later ih =>
    rw [List.map_cons, List.mem_cons, not_or] at h
    rw [putColumn, if_neg (Ne.symm h.1), ih h.2]
    rfl

/-- Columns of different names are declared one after the other. Where two have
one name, the later takes the place of the earlier, and the table could not be
read back. -/
theorem foldl_putColumn_of_nodup {columns : List ColumnDecl}
    (h : (columns.map fun c => c.name).Nodup) :
    columns.foldl (fun columns column => putColumn column columns) [] = columns := by
  induction columns using List.reverseRecOn with
  | nil => rfl
  | append_singleton before column ih =>
    rw [List.map_append, List.nodup_append] at h
    obtain ⟨distinct, -, apart⟩ := h
    rw [List.foldl_append, List.foldl_cons, List.foldl_nil, ih distinct]
    exact putColumn_of_notMem fun member =>
      apart _ member column.name (List.mem_singleton.2 rfl) rfl

/-- The columns of a table are read back. -/
theorem valuesOf_readColumn_written {columns : List ColumnDecl}
    (h : ∀ column ∈ columns, column.IsWritable) :
    valuesOf ((columns.map ColumnDecl.written).map readColumn) = columns := by
  rw [valuesOf, List.map_map, List.filterMap_map]
  refine (List.filterMap_congr fun column hc => ?_).trans List.filterMap_some
  have read := readColumn_of_declaresColumn (ColumnDecl.declaresColumn_written (h column hc))
  simp only [Function.comp_apply, read]

theorem isColumnToken_of_mem_written (h : table.IsWritable) :
    ∀ token ∈ columnTokens table.writtenBody, IsColumnToken token := by
  rw [columnTokens_writtenBody]
  intro token member
  obtain ⟨column, hc, rfl⟩ := List.mem_map.1 member
  exact exists_declaresColumn_iff.1
    ⟨column, ColumnDecl.declaresColumn_written (h.columns column hc)⟩

/-- **The columns of a table are read back from what was written**, each from
its token and in order, because their names differ. -/
theorem columns_written (h : table.IsWritable) :
    ((valuesOf (table.writtenBody.map readEntry)).foldl add (empty table.name)).columns =
      table.columns := by
  rw [columns_foldl_add, filterMap_column?_valuesOf, columnTokens_writtenBody,
    valuesOf_readColumn_written h.columns]
  exact foldl_putColumn_of_nodup h.distinct

/-- The flags are read back as well: their tokens are written just where they
are set, and nothing else is written like them. -/
theorem flags_written (h : table.IsWritable) :
    ((valuesOf (table.writtenBody.map readEntry)).foldl add (empty table.name)).flags =
      table.flags := by
  have read := (@declares_of_entries table.name table.writtenBody (isColumnToken_of_mem_written h)
    table.written).flags_eq
  have softDeletes : "softDeletes" ∈ table.writtenBody ↔ table.flags.softDeletes = true := by
    rw [mem_writtenBody_of_isFlag rfl, mem_written_flags]
    simp
  have timestamps : "timestamps" ∈ table.writtenBody ↔ table.flags.timestamps = true := by
    rw [mem_writtenBody_of_isFlag rfl, mem_written_flags]
    simp
  simp only [softDeletes, timestamps, Bool.decide_eq_true] at read
  exact read

/-- **What is written is read back.** Every writable table is what its written
form is read as: its name, its columns in order, each with its kind and all its
options, its flags, and its indexes. -/
theorem parse_written (table : TableDecl) (h : table.IsWritable) :
    parse table.written = .ok table := by
  have flawless : BodyFlaws table.name table.name table.writtenBody [] :=
    bodyFlaws_nil_iff.2 ⟨h.named, isColumnToken_of_mem_written h⟩
  refine (parse_eq_ok_iff (hasBody_written h)).2 ⟨flawless, ?_⟩
  have name := name_foldl_add (empty table.name) (valuesOf (table.writtenBody.map readEntry))
  have columns := columns_written h
  have flags := flags_written h
  generalize (valuesOf (table.writtenBody.map readEntry)).foldl add (empty table.name) = read at *
  rw [filterMap_readIndex?_written h]
  dsimp only
  rw [name, columns, flags]
  rfl

/-- A table in which much stands where something else could be meant: its name is
a word for an index, a column is called like a flag, an option like a kind, and
the text of an option has an equals sign in it. -/
def deceptive : TableDecl where
  name := "unique"
  columns :=
    [⟨"softDeletes", .string, false, .empty⟩, ⟨"note", .string, false, .ofList [("text", .flag)]⟩,
      ⟨"state", .enum, true, .ofList [("default", .value "a=b"), ("values", .list ["a=b", "c d"])]⟩]
  flags := ⟨true, true⟩
  indexes := [⟨.plain, ["note", "state"], none⟩]

/-- Nothing in that table is taken for something else. -/
theorem parse_written_deceptive :
    deceptive.written = "unique,softDeletes:,note::text,state:enum:default=a=b:values=a=b|c d," ++
      "softDeletes,timestamps,index:note|state" ∧
    parse deceptive.written = .ok deceptive :=
  ⟨by decide +kernel, parse_written deceptive (by decide +kernel)⟩

end TableDecl

end SchemaPlan
