import SchemaPlan.Proofs.Literal
import SchemaPlan.Source.Reading

/-!
# Expressions are read back

Every expression whose functions and constants are named properly is read
back from the characters it is written with. The readers follow the grammar
of expressions, and so do the statements, from arguments to calls and to
chains of calls: what is written for a part is read as that part, and the
characters after it are left for the next reader.

A path of names ends where a character follows that no path holds. This is
the one condition on what comes after (`Stops`); literals and brackets end by
themselves.
-/

namespace SchemaPlan

/-! ## Paths -/

/-- Whether a text is a path of names: a letter, and then characters of a
path. -/
def isName (path : String) : Bool :=
  match path.toList with
  | [] => false
  | c :: cs => c.isAlpha && cs.all isPathChar

/-- What follows does not go on with a path. -/
def Stops (rest : List Char) : Prop :=
  ∀ c ∈ rest.head?, isPathChar c = false

@[simp] theorem stops_nil : Stops [] := nofun

theorem stops_cons {c : Char} (h : isPathChar c = false) (rest : List Char) : Stops (c :: rest) := by
  intro d hd
  cases hd
  exact h

theorem isPathChar_of_isAlpha {c : Char} (h : c.isAlpha = true) : isPathChar c = true := by
  simp [isPathChar, Char.isAlphanum, h]

theorem isPathChar_of_isDigit {c : Char} (h : c.isDigit = true) : isPathChar c = true := by
  simp [isPathChar, Char.isAlphanum, h]

/-- A name has a first letter, by which the reader knows that a path begins,
and then goes on as one path. -/
theorem exists_of_isName {path : String} (h : isName path = true) :
    ∃ c cs, path.toList = c :: cs ∧ c.isAlpha = true ∧ ∀ d ∈ path.toList, isPathChar d = true := by
  unfold isName at h
  split at h
  · cases h
  · rename_i c cs same
    rw [Bool.and_eq_true, List.all_eq_true] at h
    refine ⟨c, cs, same, h.1, fun d hd => ?_⟩
    rw [same] at hd
    rcases List.mem_cons.1 hd with rfl | hd
    · exact isPathChar_of_isAlpha h.1
    · exact h.2 d hd

theorem isEmpty_eq_false_of_isName {path : String} (h : isName path = true) :
    path.isEmpty = false := by
  cases empty : path.isEmpty with
  | false => rfl
  | true =>
    rw [String.isEmpty_iff.1 empty] at h
    cases h

/-- Where the first character fails a test, nothing is taken and all is left.
This is what makes a path and a number end where they end. -/
theorem takeWhile_of_stop {p : Char → Bool} {rest : List Char}
    (stop : ∀ c ∈ rest.head?, p c = false) : rest.takeWhile p = [] ∧ rest.dropWhile p = rest := by
  cases rest with
  | nil => exact ⟨rfl, rfl⟩
  | cons c cs =>
    have stops : p c = false := stop c rfl
    rw [List.takeWhile_cons, List.dropWhile_cons, stops]
    exact ⟨rfl, rfl⟩

/-- **A path is read up to where it stops.** -/
theorem readPath_append {path : String} (h : ∀ c ∈ path.toList, isPathChar c = true)
    {rest : List Char} (stop : Stops rest) : readPath (path.toList ++ rest) = (path, rest) := by
  unfold readPath
  rw [List.takeWhile_append_of_pos h, List.dropWhile_append_of_pos h,
    (takeWhile_of_stop stop).1, (takeWhile_of_stop stop).2, List.append_nil, String.ofList_toList]

/-! ## Lists of literals -/

/-- **A list of texts is read up to its bracket.** The induction is on the
texts; a literal ends at its own quote, so a comma or a bracket inside one does
not count. -/
theorem readTexts?_quoteAll {items : List String} {fuel : Nat} (h : items.length < fuel)
    (rest : List Char) :
    readTexts? fuel ((Text.quoteAll items).toList ++ ']' :: rest) = some (items, rest) := by
  unfold Text.quoteAll
  induction items generalizing fuel with
  | nil =>
    cases fuel with
    | zero => cases h
    | succ fuel => rfl
  | cons item later ih =>
    cases fuel with
    | zero => cases h
    | succ fuel =>
      by_cases last : later = []
      · subst last
        rw [List.map_singleton, String.intercalate_singleton, Text.toList_quote, List.cons_append,
          List.append_assoc, readTexts?, List.singleton_append, Text.decodeChars?_encodeChars]
        show some ([String.ofList item.toList], rest) = some ([item], rest)
        rw [String.ofList_toList]
      · rw [List.map_cons, Text.toList_intercalate_cons (by simpa using last), Text.toList_quote,
          List.cons_append, List.cons_append, List.cons_append, List.append_assoc, List.append_assoc,
          List.append_assoc, readTexts?, List.singleton_append, Text.decodeChars?_encodeChars]
        show Option.map _ (readTexts? fuel
          ((", ".intercalate (later.map Text.quote)).toList ++ ']' :: rest)) = _
        rw [ih (Nat.lt_of_succ_lt_succ h), Option.map_some, String.ofList_toList]

/-! ## Arguments -/

theorem isDigit_eq_false_of_isAlpha {c : Char} (h : c.isAlpha = true) : c.isDigit = false := by
  cases digit : c.isDigit with
  | false => rfl
  | true =>
    have small : c.toNat ≤ 57 := (Char.isDigit_iff_toNat.1 digit).2
    have large := Text.toNat_of_isAlpha h
    omega

/-- What ends a path ends a number as well, so one condition on what follows is
enough for both. -/
theorem isDigit_eq_false_of_isPathChar {c : Char} (h : isPathChar c = false) :
    c.isDigit = false := by
  cases digit : c.isDigit with
  | false => rfl
  | true =>
    rw [isPathChar_of_isDigit digit] at h
    cases h

/-- The value of the digits of a number is the number. -/
@[simp] theorem digitsValue_toDigits (n : Nat) : Text.digitsValue (Nat.toDigits 10 n) = n :=
  Nat.ofDigitChars_ten_toDigits

theorem isDigit_of_mem_toDigits {n : Nat} {c : Char} (h : c ∈ Nat.toDigits 10 n) :
    c.isDigit = true :=
  Nat.isDigit_of_mem_toDigits (by decide) (by decide) h

/-- What does not begin like a literal or a list is read as a number or as an
argument that begins with a path. -/
theorem readArgument?_of_ne {c : Char} (text : c ≠ '"') (list : c ≠ '[') (lent : c ≠ '&')
    (cs : List Char) :
    readArgument? (c :: cs) =
      if c.isDigit then
        some (.number (Text.digitsValue ((c :: cs).takeWhile Char.isDigit)),
          (c :: cs).dropWhile Char.isDigit)
      else
        readNamedArgument? (c :: cs) := by
  rw [readArgument?]
  · exact text
  · exact list
  · exact fun _ h _ => lent h

theorem ne_of_isPathChar {c d : Char} (h : isPathChar c = true) (outside : isPathChar d = false) :
    c ≠ d := by
  rintro rfl
  rw [h] at outside
  cases outside

/-- What begins with a name is read as an argument that begins with a path. -/
theorem readArgument?_of_isName {path : String} (h : isName path = true) (rest : List Char) :
    readArgument? (path.toList ++ rest) = readNamedArgument? (path.toList ++ rest) := by
  obtain ⟨c, cs, same, letter, -⟩ := exists_of_isName h
  have part := isPathChar_of_isAlpha letter
  rw [same, List.cons_append, readArgument?_of_ne (ne_of_isPathChar part rfl)
    (ne_of_isPathChar part rfl) (ne_of_isPathChar part rfl), isDigit_eq_false_of_isAlpha letter]
  rfl

/-- What begins with a digit is read as a number. -/
theorem readArgument?_of_isDigit {c : Char} (h : c.isDigit = true) (cs : List Char) :
    readArgument? (c :: cs) =
      some (.number (Text.digitsValue ((c :: cs).takeWhile Char.isDigit)),
        (c :: cs).dropWhile Char.isDigit) := by
  have part := isPathChar_of_isDigit h
  rw [readArgument?_of_ne (ne_of_isPathChar part rfl) (ne_of_isPathChar part rfl)
    (ne_of_isPathChar part rfl), if_pos h]

/-- A path that is not the name of a text that may be missing is read as a
constant. -/
theorem readNamedArgument?_constant {path : String} (h : isName path = true) (none' : path ≠ "None")
    (some' : path ≠ "Some") {rest : List Char} (stop : Stops rest) :
    readNamedArgument? (path.toList ++ rest) = some (.constant path, rest) := by
  obtain ⟨-, -, -, -, all⟩ := exists_of_isName h
  unfold readNamedArgument?
  rw [readPath_append all stop]
  split
  · rename_i found
    cases found
    exact absurd rfl none'
  · rename_i found
    cases found
    exact absurd rfl some'
  · rename_i found
    cases found
    rw [isEmpty_eq_false_of_isName h]
    rfl

namespace Argument

/-- Whether an argument is written like no other: a constant must have a
proper name, and not the name that belongs to a text that may be missing. -/
def isReadable : Argument → Bool
  | constant path => isName path && path != "None" && path != "Some"
  | _ => true

/-- A constant that can be read is a name; `None` and `Some` are names as well,
which is why they are not allowed as constants. -/
theorem isName_of_constant {path : String} (h : (constant path).isReadable = true) :
    isName path = true := by
  unfold isReadable at h
  rw [Bool.and_eq_true, Bool.and_eq_true] at h
  exact h.1.1

@[simp] theorem readArgument?_text (s : String) (rest : List Char) :
    readArgument? ((text s).render.toList ++ rest) = some (text s, rest) := by
  unfold render
  rw [Text.toList_quote, List.cons_append, List.append_assoc, List.singleton_append, readArgument?,
    Text.decodeChars?_encodeChars]
  show some (text (String.ofList s.toList), rest) = some (text s, rest)
  rw [String.ofList_toList]

/-- A number is read to its last digit. What follows must not go on with a
path, since `3` in front of `x` would not be a number alone. -/
theorem readArgument?_number (n : Nat) {rest : List Char} (stop : Stops rest) :
    readArgument? ((number n).render.toList ++ rest) = some (number n, rest) := by
  have digits : (number n).render.toList = Nat.toDigits 10 n := Nat.toList_repr
  have all : ∀ c ∈ Nat.toDigits 10 n, c.isDigit = true := fun c => isDigit_of_mem_toDigits
  have stops := takeWhile_of_stop fun c hc => isDigit_eq_false_of_isPathChar (stop c hc)
  rw [digits]
  -- a number has a first digit, by which the reader knows it for a number
  cases same : Nat.toDigits 10 n with
  | nil => exact absurd same Nat.toDigits_ne_nil
  | cons c cs =>
    rw [List.cons_append, readArgument?_of_isDigit (all c (same ▸ List.mem_cons_self)),
      ← List.cons_append, ← same, List.takeWhile_append_of_pos all, List.dropWhile_append_of_pos all,
      stops.1, stops.2, List.append_nil, digitsValue_toDigits]

/-- There are no more texts than characters in the list of their literals, so a
reader that may go on for so many characters meets all of them. -/
theorem length_lt_of_quoteAll (items : List String) (rest : List Char) :
    items.length < ((Text.quoteAll items).toList ++ ']' :: rest).length + 1 := by
  have short := Text.length_le_of_intercalate ", " Text.quote fun item (_ : item ∈ items) => by
    rw [Text.toList_quote]
    exact List.cons_ne_nil _ _
  rw [List.length_append, Text.quoteAll]
  omega

@[simp] theorem readArgument?_texts (items : List String) (rest : List Char) :
    readArgument? ((texts items).render.toList ++ rest) = some (texts items, rest) := by
  have chars : (texts items).render.toList ++ rest =
      '[' :: ((Text.quoteAll items).toList ++ ']' :: rest) := by
    unfold render
    rw [String.toList_append, String.toList_append, List.append_assoc, List.append_assoc]
    rfl
  rw [chars, readArgument?, readTexts?_quoteAll (length_lt_of_quoteAll items rest)]
  rfl

/-- A list with `&` in front is the other form of the same argument, and it is
read as that form. -/
@[simp] theorem readArgument?_borrowedTexts (items : List String) (rest : List Char) :
    readArgument? ((borrowedTexts items).render.toList ++ rest) =
      some (borrowedTexts items, rest) := by
  have chars : (borrowedTexts items).render.toList ++ rest =
      '&' :: '[' :: ((Text.quoteAll items).toList ++ ']' :: rest) := by
    unfold render
    rw [String.toList_append, String.toList_append, List.append_assoc, List.append_assoc]
    rfl
  rw [chars, readArgument?, readTexts?_quoteAll (length_lt_of_quoteAll items rest)]
  rfl

/-- A constant is read as a constant, because it is neither of the two words
that begin an optional text. -/
theorem readArgument?_constant {path : String} (h : (constant path).isReadable = true)
    {rest : List Char} (stop : Stops rest) :
    readArgument? ((constant path).render.toList ++ rest) = some (constant path, rest) := by
  unfold isReadable at h
  rw [Bool.and_eq_true, Bool.and_eq_true, bne_iff_ne, bne_iff_ne] at h
  obtain ⟨⟨name, none'⟩, some'⟩ := h
  show readArgument? (path.toList ++ rest) = _
  rw [readArgument?_of_isName name, readNamedArgument?_constant name none' some' stop]

theorem readArgument?_none {rest : List Char} (stop : Stops rest) :
    readArgument? ((optionalText none).render.toList ++ rest) = some (optionalText none, rest) := by
  show readArgument? ("None".toList ++ rest) = _
  rw [readArgument?_of_isName (by decide), readNamedArgument?,
    readPath_append (List.all_eq_true.1 (by decide)) stop]
  rfl

/-- An optional text that is there begins with `Some` and a bracket, and is
told by them from a constant. -/
@[simp] theorem readArgument?_some (s : String) (rest : List Char) :
    readArgument? ((optionalText (some s)).render.toList ++ rest) =
      some (optionalText (some s), rest) := by
  have chars : (optionalText (some s)).render.toList ++ rest =
      "Some".toList ++ '(' :: '"' :: (Text.encodeChars s.toList ++ '"' :: ')' :: rest) := by
    unfold render
    rw [String.toList_append, String.toList_append, Text.toList_quote]
    simp
  rw [chars, readArgument?_of_isName (by decide), readNamedArgument?,
    readPath_append (List.all_eq_true.1 (by decide)) (stops_cons rfl _)]
  simp only [Text.decodeChars?_encodeChars, String.ofList_toList]

/-- **Every argument is read as it is written**, and what comes after it is
left. -/
theorem readArgument?_render {argument : Argument} (h : argument.isReadable = true)
    {rest : List Char} (stop : Stops rest) :
    readArgument? (argument.render.toList ++ rest) = some (argument, rest) := by
  cases argument with
  | text s => exact readArgument?_text s rest
  | number n => exact readArgument?_number n stop
  | constant path => exact readArgument?_constant h stop
  | texts items => exact readArgument?_texts items rest
  | borrowedTexts items => exact readArgument?_borrowedTexts items rest
  | optionalText s =>
    cases s with
    | none => exact readArgument?_none stop
    | some s => exact readArgument?_some s rest

end Argument

/-! ## Calls -/

/-- No argument is written without characters, and none begins with the
bracket that closes a call. -/
theorem Argument.exists_of_render {argument : Argument} (h : argument.isReadable = true) :
    ∃ c cs, argument.render.toList = c :: cs ∧ c ≠ ')' := by
  have read := readArgument?_render h stops_nil
  rw [List.append_nil] at read
  cases same : argument.render.toList with
  | nil =>
    rw [same] at read
    cases read
  | cons c cs =>
    refine ⟨c, cs, rfl, ?_⟩
    rintro rfl
    rw [same] at read
    cases read

/-- **A list of arguments is read up to its bracket**, by induction on the
list. Each argument stops at a comma or at the bracket. -/
theorem readArguments?_intercalate {arguments : List Argument}
    (h : ∀ argument ∈ arguments, argument.isReadable = true) {fuel : Nat}
    (enough : arguments.length < fuel) (rest : List Char) :
    readArguments? fuel
        ((", ".intercalate (arguments.map Argument.render)).toList ++ ')' :: rest) =
      some (arguments, rest) := by
  induction arguments generalizing fuel with
  | nil =>
    cases fuel with
    | zero => cases enough
    | succ fuel => rfl
  | cons argument later ih =>
    cases fuel with
    | zero => cases enough
    | succ fuel =>
      have first := h argument List.mem_cons_self
      obtain ⟨c, cs, same, open'⟩ := Argument.exists_of_render first
      -- the last argument is followed by the bracket, any other one by a comma
      by_cases last : later = []
      · subst last
        have read := Argument.readArgument?_render first (stops_cons (c := ')') rfl rest)
        rw [List.map_singleton, String.intercalate_singleton, readArguments?, read]
        · rfl
        · rw [same, List.cons_append]
          exact fun _ found => open' (List.cons.inj found).1
      · have read := Argument.readArgument?_render first
          (stops_cons (c := ',') rfl (' ' :: ((", ".intercalate
            (later.map Argument.render)).toList ++ ')' :: rest)))
        rw [List.map_cons, Text.toList_intercalate_cons (by simpa using last), List.append_assoc,
          List.append_assoc]
        show readArguments? (fuel + 1) (argument.render.toList ++ ',' :: ' ' ::
          ((", ".intercalate (later.map Argument.render)).toList ++ ')' :: rest)) = _
        rw [readArguments?, read]
        · show Option.map _ (readArguments? fuel _) = _
          rw [ih (fun later' h' => h later' (List.mem_cons_of_mem argument h'))
            (Nat.lt_of_succ_lt_succ enough), Option.map_some]
        · rw [same, List.cons_append]
          exact fun _ found => open' (List.cons.inj found).1

namespace Call

/-- Whether a call is written like no other. -/
def isReadable (call : Call) : Bool :=
  isName call.function && call.arguments.all Argument.isReadable

theorem isName_function {call : Call} (h : call.isReadable = true) :
    isName call.function = true :=
  (Bool.and_eq_true_iff.1 h).1

theorem isReadable_of_mem {call : Call} (h : call.isReadable = true) :
    ∀ argument ∈ call.arguments, argument.isReadable = true :=
  List.all_eq_true.1 (Bool.and_eq_true_iff.1 h).2

theorem toList_render (call : Call) (rest : List Char) :
    call.render.toList ++ rest = call.function.toList ++ '(' ::
      ((", ".intercalate (call.arguments.map Argument.render)).toList ++ ')' :: rest) := by
  unfold render
  rw [String.toList_append, String.toList_append, String.toList_append, List.append_assoc,
    List.append_assoc, List.append_assoc]
  rfl

/-- **Every call is read as it is written.** It ends by itself, whatever comes
after it. -/
theorem readCall?_render {call : Call} (h : call.isReadable = true) (rest : List Char) :
    readCall? (call.render.toList ++ rest) = some (call, rest) := by
  obtain ⟨-, -, -, -, name⟩ := exists_of_isName (isName_function h)
  have short := Text.length_le_of_intercalate ", " Argument.render
    fun argument (known : argument ∈ call.arguments) => by
      obtain ⟨c, cs, same, -⟩ := Argument.exists_of_render (isReadable_of_mem h argument known)
      rw [same]
      exact List.cons_ne_nil c cs
  have enough : call.arguments.length < ((", ".intercalate
      (call.arguments.map Argument.render)).toList ++ ')' :: rest).length + 1 := by
    rw [List.length_append]
    omega
  rw [toList_render, readCall?, readPath_append name (stops_cons rfl _)]
  show Option.map _ (readArguments? _ _) = _
  rw [readArguments?_intercalate (isReadable_of_mem h) enough]
  rfl

end Call

/-! ## Chains -/

namespace Expression

/-- **Methods are read one after the other**, by induction on their list, as
long as there is a dot. -/
theorem readMethods?_concat {methods : List Call} (h : ∀ method ∈ methods, method.isReadable = true)
    {fuel : Nat} (enough : methods.length ≤ fuel) (rest : List Char) :
    readMethods? fuel ((methods.map renderMethod).flatMap String.toList ++ ')' :: rest) =
      some (methods, ')' :: rest) := by
  induction methods generalizing fuel with
  | nil =>
    cases fuel with
    | zero => rfl
    | succ fuel => rfl
  | cons method later ih =>
    cases fuel with
    | zero => cases enough
    | succ fuel =>
      have chars : ((method :: later).map renderMethod).flatMap String.toList ++ ')' :: rest =
          '.' :: (method.render.toList ++
            ((later.map renderMethod).flatMap String.toList ++ ')' :: rest)) := by
        rw [List.map_cons, List.flatMap_cons, renderMethod, String.toList_append, List.append_assoc,
          List.append_assoc]
        rfl
      rw [chars, readMethods?, Call.readCall?_render (h method List.mem_cons_self)]
      show (readMethods? fuel _).bind _ = _
      rw [ih (fun later' h' => h later' (List.mem_cons_of_mem method h'))
        (Nat.le_of_succ_le_succ enough)]
      rfl

/-- There are no more methods than characters in the calls of them, so the
reader of methods has enough to go on. -/
theorem length_le_flatMap (methods : List Call) :
    methods.length ≤ ((methods.map renderMethod).flatMap String.toList).length := by
  have short := Text.length_le_of_intercalate "" renderMethod fun method (_ : method ∈ methods) => by
    rw [renderMethod, String.toList_append]
    exact List.cons_ne_nil _ _
  rw [Text.toList_concat] at short
  exact short

/-- A chain is a function around a call with methods after it, and it is read
as that. -/
theorem readChain?_render (function : String) {first : Call} (h : first.isReadable = true)
    {methods : List Call} (each : ∀ method ∈ methods, method.isReadable = true)
    (rest : List Char) :
    readChain? function (first.render.toList ++
        ((methods.map renderMethod).flatMap String.toList ++ ')' :: rest)) =
      some (.chain function first methods, rest) := by
  have enough : methods.length ≤
      ((methods.map renderMethod).flatMap String.toList ++ ')' :: rest).length := by
    rw [List.length_append]
    exact Nat.le_add_right_of_le (length_le_flatMap methods)
  rw [readChain?, Call.readCall?_render h]
  show (readMethods? _ _).bind _ = _
  rw [readMethods?_concat each enough]
  rfl

/-! ## Expressions -/

/-- What does not begin with a path and an opening bracket is no call. -/
theorem readCall?_eq_none (path : String) (h : ∀ c ∈ path.toList, isPathChar c = true)
    {rest : List Char} (stop : Stops rest) (open' : rest.head? ≠ some '(') :
    readCall? (path.toList ++ rest) = none := by
  rw [readCall?, readPath_append h stop]
  split
  · rename_i found
    cases found
    exact absurd rfl open'
  · rfl

/-- **What stands in a plain call is not read as a call itself**, if it does not
begin with a text in brackets. -/
theorem readCall?_argument {argument : Argument} (h : argument.isReadable = true)
    (plain : ∀ s, argument ≠ .optionalText (some s)) {rest : List Char} (stop : Stops rest)
    (open' : rest.head? ≠ some '(') : readCall? (argument.render.toList ++ rest) = none := by
  cases argument with
  | text s =>
    rw [Argument.render, Text.toList_quote]
    exact readCall?_eq_none "" nofun (stops_cons rfl _) nofun
  | number n =>
    refine readCall?_eq_none (toString n) (fun c member => ?_) stop open'
    rw [show (toString n).toList = _ from Nat.toList_repr] at member
    exact isPathChar_of_isDigit (isDigit_of_mem_toDigits member)
  | constant path =>
    obtain ⟨-, -, -, -, name⟩ := exists_of_isName (Argument.isName_of_constant h)
    exact readCall?_eq_none path name stop open'
  | texts items =>
    rw [Argument.render, String.toList_append, String.toList_append]
    exact readCall?_eq_none "" nofun (stops_cons rfl _) nofun
  | borrowedTexts items =>
    rw [Argument.render, String.toList_append, String.toList_append]
    exact readCall?_eq_none "" nofun (stops_cons rfl _) nofun
  | optionalText s =>
    cases s with
    | none => exact readCall?_eq_none "None" (List.all_eq_true.1 (by decide)) stop open'
    | some s => exact absurd rfl (plain s)

/-- Whether an expression is written like no other. A plain call must not begin
with a text in brackets, which is written like a call. -/
def isReadable : Expression → Bool
  | constant path => isName path
  | call c =>
    c.isReadable && match c.arguments with
      | .optionalText (some _) :: _ => false
      | _ => true
  | chain function first methods =>
    isName function && first.isReadable && methods.all Call.isReadable

theorem readChars?_constant {path : String} (h : isName path = true) :
    readChars? path.toList = some (.constant path, []) := by
  obtain ⟨-, -, -, -, name⟩ := exists_of_isName h
  have read := readPath_append name stops_nil
  rw [List.append_nil] at read
  rw [readChars?, read]
  show (if path.isEmpty then none else some _) = _
  rw [isEmpty_eq_false_of_isName h]
  rfl

/-- **A chain is read as a chain**, since what stands behind its first bracket
is a call. -/
theorem readChars?_chain {function : String} (name : isName function = true) {first : Call}
    (h : first.isReadable = true) {methods : List Call}
    (each : ∀ method ∈ methods, method.isReadable = true) :
    readChars? (chain function first methods).render.toList =
      some (.chain function first methods, []) := by
  obtain ⟨-, -, -, -, all⟩ := exists_of_isName name
  have chars : (chain function first methods).render.toList = function.toList ++ '(' ::
      (first.render.toList ++ ((methods.map renderMethod).flatMap String.toList ++ [')'])) := by
    rw [render, String.toList_append, String.toList_append, String.toList_append,
      String.toList_append, Text.toList_concat, List.append_assoc, List.append_assoc, List.append_assoc]
    rfl
  rw [chars, readChars?, readPath_append all (stops_cons rfl _)]
  simp only [readChain?_render function h each]

/-- What stands between the brackets of a plain call is not read as a chain. -/
theorem readChain?_arguments (function : String) {arguments : List Argument}
    (h : ∀ argument ∈ arguments, argument.isReadable = true)
    (plain : ∀ s, arguments.head? ≠ some (.optionalText (some s))) (rest : List Char) :
    readChain? function ((", ".intercalate (arguments.map Argument.render)).toList ++ ')' :: rest) =
      none := by
  have noCall : readCall?
      ((", ".intercalate (arguments.map Argument.render)).toList ++ ')' :: rest) = none := by
    cases arguments with
    | nil => exact readCall?_eq_none "" nofun (stops_cons rfl _) nofun
    | cons argument later =>
      have first := h argument List.mem_cons_self
      have plain' : ∀ s, argument ≠ .optionalText (some s) := fun s same => plain s (by rw [same]; rfl)
      by_cases last : later = []
      · rw [last, List.map_singleton, String.intercalate_singleton]
        exact readCall?_argument first plain' (stops_cons rfl _) nofun
      · rw [List.map_cons, Text.toList_intercalate_cons (by simpa using last), List.append_assoc,
          List.append_assoc]
        exact readCall?_argument first plain' (stops_cons (c := ',') rfl _) nofun
  rw [readChain?, noCall]
  rfl

/-- **A plain call is read as a call.** A chain is tried first, and it must be
seen that what stands in the brackets is none; an optional text at the front
would be written like one. -/
theorem readChars?_call {c : Call} (h : c.isReadable = true)
    (plain : ∀ s, c.arguments.head? ≠ some (.optionalText (some s))) :
    readChars? c.render.toList = some (.call c, []) := by
  obtain ⟨-, -, -, -, all⟩ := exists_of_isName (Call.isName_function h)
  have read := Call.readCall?_render h []
  have chars := Call.toList_render c []
  rw [List.append_nil] at read chars
  -- a chain is tried first, and what stands in the brackets is none
  have noChain := readChain?_arguments c.function (Call.isReadable_of_mem h) plain []
  unfold readChars?
  rw [read, chars, readPath_append all (stops_cons rfl _)]
  simp only [noChain, Option.map_some]

/-- **Every expression is read as it is written**, and nothing of the text is
left. -/
theorem read?_render {expression : Expression} (h : expression.isReadable = true) :
    read? expression.render = some expression := by
  have chars : readChars? expression.render.toList = some (expression, []) := by
    cases expression with
    | constant path => exact readChars?_constant h
    | call c =>
      unfold isReadable at h
      rw [Bool.and_eq_true] at h
      refine readChars?_call h.1 fun s same => ?_
      have begins := h.2
      split at begins
      · cases begins
      · rename_i other
        cases found : c.arguments with
        | nil =>
          rw [found] at same
          cases same
        | cons argument later =>
          rw [found] at same
          cases same
          exact other s later found
    | chain function first methods =>
      unfold isReadable at h
      rw [Bool.and_eq_true, Bool.and_eq_true, List.all_eq_true] at h
      exact readChars?_chain h.1.1 h.1.2 h.2
  rw [read?, chars]

end Expression

/-! ## One line -/

theorem isLine_of_isName {path : String} (h : isName path = true) : Text.IsLine path := by
  obtain ⟨-, -, -, -, all⟩ := exists_of_isName h
  intro c member same
  have part := all c member
  rw [same] at part
  revert part
  decide

/-- An argument stands on one line: its texts are literals, and those have no
line breaks in them. -/
theorem Argument.isLine_render {argument : Argument} (h : argument.isReadable = true) :
    Text.IsLine argument.render := by
  cases argument with
  | text s => exact Text.isLine_quote s
  | number n =>
    intro c member same
    rw [render, show (toString n).toList = _ from Nat.toList_repr, same] at member
    exact absurd (isDigit_of_mem_toDigits member) (by decide)
  | constant path => exact isLine_of_isName (isName_of_constant h)
  | texts items =>
    exact (Text.Consists.append (by decide) (Text.isLine_quoteAll items)).append (by decide)
  | borrowedTexts items =>
    exact (Text.Consists.append (by decide) (Text.isLine_quoteAll items)).append (by decide)
  | optionalText s =>
    cases s with
    | none => decide
    | some s => exact (Text.Consists.append (by decide) (Text.isLine_quote s)).append (by decide)

theorem Call.isLine_render {call : Call} (h : call.isReadable = true) : Text.IsLine call.render := by
  have function := isLine_of_isName (isName_function h)
  have arguments : Text.IsLine (", ".intercalate (call.arguments.map Argument.render)) :=
    .intercalate (by decide) fun argument known =>
      Argument.isLine_render (isReadable_of_mem h argument known)
  exact ((function.append (by decide)).append arguments).append (by decide)

/-- **An expression stands on one line**, whatever texts are in it. -/
theorem Expression.isLine_render {expression : Expression} (h : expression.isReadable = true) :
    Text.IsLine expression.render := by
  cases expression with
  | constant path => exact isLine_of_isName h
  | call c =>
    unfold isReadable at h
    rw [Bool.and_eq_true] at h
    exact Call.isLine_render h.1
  | chain function first methods =>
    unfold isReadable at h
    rw [Bool.and_eq_true, Bool.and_eq_true, List.all_eq_true] at h
    obtain ⟨⟨name, begins⟩, each⟩ := h
    have calls : Text.IsLine ("".intercalate (methods.map renderMethod)) :=
      .intercalate (by decide) fun method known =>
        Text.Consists.append (by decide) (Call.isLine_render (each method known))
    exact ((((isLine_of_isName name).append (by decide)).append (Call.isLine_render begins)).append
      calls).append (by decide)

end SchemaPlan
