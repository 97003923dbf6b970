import SchemaPlan.Proofs.OperationReading
import SchemaPlan.Proofs.Run
import SchemaPlan.Source.UnitReading

/-!
# Migrations are read back

The source of a migration consists of known lines (`Artifact.lines`): a frame,
and in it every operation on a line of its own, in order. From these lines
everything the migration carries is read back.

The lines of a text are not its parts if a part has a line break in it. No
operation has one, and neither has the name of the type, as long as the table
is an identifier: the type is called `Migration` and goes on with letters and
digits only.
-/

namespace SchemaPlan

/-! ## Texts in a frame -/

namespace Text

/-- What stands in front of a text can be taken off again. The search compares
the two texts, so it cannot be misled by what follows. -/
@[simp] theorem withoutBeginning?_append (beginning s : String) :
    withoutBeginning? beginning (beginning ++ s) = some s := by
  have begins : beginning.toList.isPrefixOf (beginning.toList ++ s.toList) = true :=
    List.isPrefixOf_iff_prefix.2 (List.prefix_append _ _)
  rw [withoutBeginning?, String.toList_append, if_pos begins, List.drop_left, String.ofList_toList]

/-- **A text in a frame is found**, whatever it is: beginning and ending are
known, so the text may contain both. -/
@[simp] theorem enclosed?_append (beginning s ending : String) :
    enclosed? beginning ending (beginning ++ s ++ ending) = some s := by
  rw [enclosed?, String.append_assoc, withoutBeginning?_append]
  exact withoutEnding?_append s ending

/-- A line that is a literal and nothing else denotes the text it was made of.
-/
@[simp] theorem unquote?_quote (s : String) : unquote? (quote s) = some s := by
  simp [unquote?]

end Text

/-! ## The lines of a migration -/

namespace Artifact

/-- The line of an operation. -/
def operationText (operation : Operation) : String :=
  "            " ++ operation.render ++ ","

/-- The lines of a function that gives a list of operations. -/
def functionLines (name : String) (operations : List Operation) : List String :=
  ["    fn " ++ name ++ "() -> Vec<BlueprintOp> \x7b", "        vec!["] ++
  operations.map operationText ++
  ["        ]", "    \x7d"]

/-- The lines of the source of an artifact. -/
def lines (artifact : Artifact) : List String :=
  ["use oxide_blueprint::prelude::*;",
   "",
   "pub struct " ++ typeName artifact.name ++ ";",
   "",
   "impl Migration for " ++ typeName artifact.name ++ " \x7b",
   "    const ID: &'static str = " ++ Text.quote artifact.name ++ ";",
   "    const TABLE: &'static str = " ++ Text.quote artifact.table ++ ";",
   ""] ++
  functionLines "up" artifact.forward ++
  [""] ++
  functionLines "down" artifact.inverse ++
  ["\x7d"]

/-- The writer puts operations together as one text. As a list of lines it can
be read line by line, which this and the next two statements prepare. -/
theorem operationLines_eq (operations : List Operation) :
    operationLines operations = Text.unlines (operations.map operationText) := by
  have each : operationLine = (fun line => line ++ "\n") ∘ operationText := by
    funext operation
    have ending : ",\n" = "," ++ "\n" := rfl
    rw [operationLine, ending]
    exact String.append_assoc.symm
  rw [operationLines, Text.unlines, List.map_map, each]

/-- A function is written as two lines that open it, its operations, and two
that close it. -/
theorem functionSource_eq (name : String) (operations : List Operation) :
    functionSource name operations = Text.unlines (functionLines name operations) := by
  have header : "() -> Vec<BlueprintOp> \x7b\n" = "() -> Vec<BlueprintOp> \x7b" ++ "\n" := rfl
  have opening : "        vec![\n" = "        vec![" ++ "\n" := rfl
  have closing : "        ]\n" = "        ]" ++ "\n" := rfl
  have ending : "    \x7d\n" = "    \x7d" ++ "\n" := rfl
  unfold functionSource functionLines
  rw [operationLines_eq, header, opening, closing, ending]
  simp only [Text.unlines_append, Text.unlines_cons, Text.unlines_nil, String.append_assoc,
    String.append_empty]

/-- **The source of an artifact is the text of its lines**, each with its line
break. -/
theorem source_eq (artifact : Artifact) : artifact.source = Text.unlines artifact.lines := by
  have imports : "use oxide_blueprint::prelude::*;\n" =
      "use oxide_blueprint::prelude::*;" ++ "\n" := rfl
  have statement : ";\n" = ";" ++ "\n" := rfl
  have opening : " \x7b\n" = " \x7b" ++ "\n" := rfl
  have closing : "\x7d\n" = "\x7d" ++ "\n" := rfl
  unfold source lines
  rw [functionSource_eq, functionSource_eq, imports, statement, opening, closing]
  simp only [Text.unlines_append, Text.unlines_cons, Text.unlines_nil, String.append_assoc,
    String.append_empty, String.empty_append]

end Artifact

/-! ## Reading the lines -/

namespace SourceUnit

/-- The line of an operation is not the line that closes a list of them: it
goes on with blanks where the other has a bracket. So a list of operations ends
at its own bracket and nowhere before. -/
theorem operationText_ne (operation : Operation) :
    Artifact.operationText operation ≠ "        ]" := by
  intro same
  have chars : (Artifact.operationText operation).toList[8]? = some ']' := by
    rw [same]
    rfl
  unfold Artifact.operationText at chars
  rw [String.toList_append, String.toList_append] at chars
  cases chars

/-- **A list of operations is read to its end**, and what follows the function
is left. The induction is on the operations; each is read back from its own
line by `Operation.read?_render`. -/
@[simp] theorem readOperations?_map (operations : List Operation) (rest : List String) :
    readOperations? (operations.map Artifact.operationText ++ "        ]" :: "    \x7d" :: rest) =
      some (operations, rest) := by
  induction operations with
  | nil => rfl
  | cons operation later ih =>
    have read : (Text.enclosed? "            " "," (Artifact.operationText operation)).bind
        Operation.read? = some operation := by
      simp [Artifact.operationText]
    -- the line is not the one that ends the list, so it is read as an operation
    rw [List.map_cons, List.cons_append, readOperations?, read]
    · show (readOperations? _).bind _ = _
      rw [ih]
      rfl
    · exact fun _ closing _ => operationText_ne operation closing

/-- A function is read from its lines, with the operations it gives, whatever
lines come after it. -/
@[simp] theorem readFunction?_functionLines (name : String) (operations : List Operation)
    (rest : List String) :
    readFunction? name (Artifact.functionLines name operations ++ rest) = some (operations, rest) := by
  have lines : Artifact.functionLines name operations ++ rest =
      ("    fn " ++ name ++ "() -> Vec<BlueprintOp> \x7b") :: "        vec![" ::
        (operations.map Artifact.operationText ++ "        ]" :: "    \x7d" :: rest) := by
    unfold Artifact.functionLines
    rw [List.append_assoc, List.append_assoc]
    rfl
  simp [lines, readFunction?]

/-- **What the lines of an artifact say is read from them.** -/
theorem readLines?_lines (artifact : Artifact) :
    readLines? (artifact.lines ++ [""]) =
      some ⟨Artifact.typeName artifact.name, artifact.name, artifact.table, artifact.forward,
        artifact.inverse⟩ := by
  have functions : readFunctions? (Artifact.functionLines "up" artifact.forward ++ "" ::
      (Artifact.functionLines "down" artifact.inverse ++ ["\x7d", ""])) =
        some (artifact.forward, artifact.inverse) := by
    rw [readFunctions?, readFunction?_functionLines]
    simp only [readFunction?_functionLines]
  have lines : artifact.lines ++ [""] =
      "use oxide_blueprint::prelude::*;" :: "" ::
      ("pub struct " ++ Artifact.typeName artifact.name ++ ";") :: "" ::
      ("impl Migration for " ++ Artifact.typeName artifact.name ++ " \x7b") ::
      ("    const ID: &'static str = " ++ Text.quote artifact.name ++ ";") ::
      ("    const TABLE: &'static str = " ++ Text.quote artifact.table ++ ";") :: "" ::
      (Artifact.functionLines "up" artifact.forward ++ "" ::
        (Artifact.functionLines "down" artifact.inverse ++ ["\x7d", ""])) := by
    unfold Artifact.lines
    simp only [List.append_assoc, List.cons_append, List.nil_append]
  have implemented : (guard ("impl Migration for " ++ Artifact.typeName artifact.name ++ " \x7b" =
      "impl Migration for " ++ Artifact.typeName artifact.name ++ " \x7b") : Option Unit) = some () :=
    if_pos rfl
  rw [lines, readLines?, Text.enclosed?_append, Text.enclosed?_append, Text.enclosed?_append,
    Option.bind_some, Option.bind_some, Text.unquote?_quote, Text.unquote?_quote, functions]
  rw [Option.bind_eq_bind, Option.bind_some, implemented]
  rfl

end SourceUnit

/-! ## The name of the type -/

/-- A letter in upper case is still a letter. Only the characters of ASCII need
to be looked at. -/
theorem isAlphanum_toUpper {c : Char} (h : c.isAlphanum = true) :
    c.toUpper.isAlphanum = true := by
  have each : ∀ n < 128, (Char.ofNat n).isAlphanum = true →
      (Char.ofNat n).toUpper.isAlphanum = true := by
    decide +kernel
  have ascii : c.toNat < 128 := by
    have ranges := Text.toNat_of_isAlphanum h
    omega
  have upper := each c.toNat ascii
  rw [Char.ofNat_toNat] at upper
  exact upper h

namespace Text

theorem consists_padded (width n : Nat) : Consists (fun c => c.isDigit = true) (padded width n) := by
  intro c h
  rw [padded, String.toList_ofList, List.leftpad, List.mem_append] at h
  rcases h with zero | digit
  · rw [List.eq_of_mem_replicate zero]
    rfl
  · exact isDigit_of_mem_toDigits digit

end Text

/-- A text of letters, digits and underscores. -/
abbrev IsWord (s : String) : Prop :=
  Text.Consists (fun c => isIdentifierRest c = true) s

theorem isWord_padded (width n : Nat) : IsWord (Text.padded width n) := by
  refine (Text.consists_padded width n).imp fun c digit => ?_
  simp [isIdentifierRest, Char.isAlphanum, digit]

theorem isWord_of_isIdentifier {name : String} (h : isIdentifier name = true) : IsWord name := by
  intro c member
  unfold isIdentifier at h
  cases same : name.toList with
  | nil =>
    rw [same] at member
    cases member
  | cons first rest =>
    rw [same, isIdentifierChars, Bool.and_eq_true, List.all_eq_true] at h
    rw [same] at member
    cases member with
    | head =>
      have start := h.1
      simp only [isIdentifierStart, isIdentifierRest, Char.isAlphanum, Bool.or_eq_true] at start ⊢
      exact start.imp Or.inl id
    | tail _ later => exact h.2 c later

namespace Artifact

/-- In a year of four digits the time in front of a name has digits and
underscores only; the sign of any other year would stand in the name of the
type. -/
theorem isWord_stamp {t : Instant} (start : 0 ≤ t.date.year) (end' : t.date.year ≤ 9999) :
    IsWord t.stamp := by
  have under : IsWord "_" := by decide
  have year : IsWord (Calendar.yearText t.date.year) := by
    unfold Calendar.yearText
    rw [if_neg (Int.not_lt.2 start), if_neg (Int.not_lt.2 end')]
    exact isWord_padded _ _
  have month := (year.append under).append (isWord_padded 2 t.date.month)
  have day := (month.append under).append (isWord_padded 2 t.date.day)
  have hour := (day.append under).append (isWord_padded 2 t.hour)
  exact (hour.append (isWord_padded 2 t.minute)).append (isWord_padded 2 t.second)

/-- What follows the time in a name is made of words and the name of the table,
and so is a word if that name is an identifier. -/
theorem isWord_slug (kind : ArtifactKind) {table : String} (h : isIdentifier table = true) :
    IsWord (kind.slug table) := by
  have word := isWord_of_isIdentifier h
  cases kind
  all_goals exact (Text.Consists.append (by decide) word).append (by decide)

/-- The name of a type is made from that of the artifact by leaving out
underscores, so letters and digits are left. -/
theorem isAlphanum_of_mem_camelChars {cs : List Char} (h : ∀ c ∈ cs, isIdentifierRest c = true)
    (fresh : Bool) : ∀ c ∈ camelChars fresh cs, c.isAlphanum = true := by
  induction cs generalizing fresh with
  | nil => nofun
  | cons c cs ih =>
    have later := ih fun d hd => h d (List.mem_cons_of_mem c hd)
    unfold camelChars
    split
    · exact later true
    · rename_i other
      have plain : c.isAlphanum = true := by
        have rest := h c List.mem_cons_self
        simpa [isIdentifierRest, other] using rest
      intro d hd
      cases hd with
      | head =>
        split
        · exact isAlphanum_toUpper plain
        · exact plain
      | tail _ hd => exact later false d hd

/-- **The type is called `Migration`, and then letters and digits.** -/
theorem exists_of_typeName {artifact : Artifact} (table : isIdentifier artifact.table = true)
    (start : 0 ≤ artifact.createdAt.date.year) (end' : artifact.createdAt.date.year ≤ 9999) :
    ∃ tail, typeName artifact.name = "Migration" ++ tail ∧
      ∀ c ∈ tail.toList, c.isAlphanum = true := by
  have word : IsWord artifact.name :=
    ((isWord_stamp start end').append (by decide)).append (isWord_slug artifact.kind table)
  refine ⟨String.ofList (camelChars true artifact.name.toList), rfl, ?_⟩
  rw [String.toList_ofList]
  exact isAlphanum_of_mem_camelChars word true

/-! ## No line has a line break -/

theorem isLine_operationText (operation : Operation) : Text.IsLine (operationText operation) :=
  (Text.Consists.append (by decide) operation.isLine_render).append (by decide)

/-- No line of a function has a line break in it, whatever texts the operations
carry: a literal writes it as two characters. -/
theorem isLine_of_mem_functionLines {name : String} (h : Text.IsLine name)
    (operations : List Operation) : ∀ line ∈ functionLines name operations, Text.IsLine line := by
  have header : Text.IsLine ("    fn " ++ name ++ "() -> Vec<BlueprintOp> \x7b") :=
    (Text.Consists.append (by decide) h).append (by decide)
  have body : ∀ line ∈ operations.map operationText, Text.IsLine line := by
    intro line member
    obtain ⟨operation, -, rfl⟩ := List.mem_map.1 member
    exact isLine_operationText operation
  simp only [functionLines, List.forall_mem_append, List.forall_mem_cons]
  exact ⟨⟨⟨header, by decide, nofun⟩, body⟩, by decide, by decide, nofun⟩

/-- **The source consists of its lines**, if the type has a proper name. -/
theorem pieces_source {artifact : Artifact} (h : Text.IsLine (typeName artifact.name)) :
    Text.pieces '\n' artifact.source = artifact.lines ++ [""] := by
  have declared : Text.IsLine ("pub struct " ++ typeName artifact.name ++ ";") :=
    (Text.Consists.append (by decide) h).append (by decide)
  have implemented : Text.IsLine ("impl Migration for " ++ typeName artifact.name ++ " \x7b") :=
    (Text.Consists.append (by decide) h).append (by decide)
  have literal (beginning s : String) (b : Text.IsLine beginning) :
      Text.IsLine (beginning ++ Text.quote s ++ ";") :=
    (b.append (Text.isLine_quote s)).append (by decide)
  have named : Text.IsLine "up" ∧ Text.IsLine "down" := by decide
  have up := isLine_of_mem_functionLines named.1 artifact.forward
  have down := isLine_of_mem_functionLines named.2 artifact.inverse
  have each : ∀ line ∈ artifact.lines, Text.IsLine line := by
    simp only [lines, List.forall_mem_append, List.forall_mem_cons]
    exact ⟨⟨⟨⟨⟨by decide, by decide, declared, by decide, implemented, literal _ _ (by decide),
      literal _ _ (by decide), by decide, nofun⟩, up⟩, by decide, nofun⟩, down⟩, by decide, nofun⟩
  rw [source_eq]
  exact Text.pieces_unlines each

end Artifact

/-- **Sources are faithful.** A literal denotes the text it was made of and ends
at its own closing quote; every operation is read back from its expression, so
no two operations share one. Then the source of an artifact for a proper table,
made in a year of four digits, consists of its lines, with every operation on
one of them, and all that it says is read back from it; and its type is called
`Migration`, and then letters and digits. -/
theorem source_is_faithful :
    (∀ (s : String) (rest : List Char),
      Text.decodeChars? (Text.encodeChars s.toList ++ '"' :: rest) = some (s.toList, rest)) ∧
    (∀ operation : Operation, Operation.read? operation.render = some operation) ∧
    Function.Injective Operation.render ∧
    ∀ artifact : Artifact, isIdentifier artifact.table = true →
      0 ≤ artifact.createdAt.date.year → artifact.createdAt.date.year ≤ 9999 →
      Text.pieces '\n' artifact.source = artifact.lines ++ [""] ∧
      SourceUnit.read? artifact.source =
        some ⟨Artifact.typeName artifact.name, artifact.name, artifact.table, artifact.forward,
          artifact.inverse⟩ ∧
      ∃ tail, Artifact.typeName artifact.name = "Migration" ++ tail ∧
        ∀ c ∈ tail.toList, c.isAlphanum = true := by
  refine ⟨fun s rest => Text.decodeChars?_encodeChars s.toList rest, Operation.read?_render,
    Operation.render_injective, ?_⟩
  intro artifact table start end'
  obtain ⟨tail, named, letters⟩ := Artifact.exists_of_typeName table start end'
  -- the name of the type is the one part of the frame that is not a literal
  have line : Text.IsLine (Artifact.typeName artifact.name) := by
    rw [named]
    refine Text.Consists.append (by decide) fun c member same => ?_
    have letter := letters c member
    rw [same] at letter
    revert letter
    decide
  have pieces := Artifact.pieces_source line
  refine ⟨pieces, ?_, tail, named, letters⟩
  rw [SourceUnit.read?, pieces]
  exact SourceUnit.readLines?_lines artifact

/-- An artifact with a default that has quotes, backslashes and line breaks in it,
and what ends an operation. -/
def LongerNotes.quoted : Artifact where
  kind := .addColumns
  table := "notes"
  createdAt := start
  forward := [.addColumn { ColumnSpec.new "body" .text with default := some "\"\\\n)),\"" }]
  inverse := [.dropColumn "body"]

/-- Quotes, backslashes, line breaks and the end of an operation, all in one
default: it is read back as it was. -/
theorem source_is_faithful_notes :
    isIdentifier LongerNotes.quoted.table = true ∧
      0 ≤ LongerNotes.quoted.createdAt.date.year ∧
      LongerNotes.quoted.createdAt.date.year ≤ 9999 ∧
      SourceUnit.read? LongerNotes.quoted.source =
        some ⟨Artifact.typeName LongerNotes.quoted.name, LongerNotes.quoted.name,
          LongerNotes.quoted.table, LongerNotes.quoted.forward, LongerNotes.quoted.inverse⟩ := by
  have table : isIdentifier LongerNotes.quoted.table = true := by decide +kernel
  have start : 0 ≤ LongerNotes.quoted.createdAt.date.year := by decide +kernel
  have end' : LongerNotes.quoted.createdAt.date.year ≤ 9999 := by decide +kernel
  exact ⟨table, start, end', (source_is_faithful.2.2.2 LongerNotes.quoted table start end').2.1⟩

end SchemaPlan
