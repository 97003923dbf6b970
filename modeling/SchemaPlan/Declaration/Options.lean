import SchemaPlan.Text.Ascii

/-!
# Column options

A declared column carries options by name. An option is present in one of
three forms: a bare flag, a text given with `=`, or a list of texts. The
order in which options were written does not matter, so they are kept in
ascending order of their names, each name once. A set of options is known by
its look-ups, and the last section says what adding and erasing one option do
to them.
-/

namespace SchemaPlan

/-- The form in which an option is present. -/
inductive OptionValue where
  /-- Written by its name alone. -/
  | flag
  /-- Written with a text after `=`. -/
  | value (text : String)
  /-- Written with a list of texts. -/
  | list (items : List String)
deriving DecidableEq, Repr

/-- Options by name. That the names ascend is part of the type, so two sets of
options with the same look-ups are equal. -/
structure Options where
  /-- The options with their names. -/
  entries : List (String × OptionValue)
  /-- The names ascend, so each occurs once. -/
  ascending : entries.Pairwise (fun a b => a.1 < b.1)
deriving DecidableEq

namespace Options

/-- No options. -/
def empty : Options where
  entries := []
  ascending := .nil

instance : Inhabited Options := ⟨empty⟩

/-- The form of the option with a given name, if it is present. -/
def get? (options : Options) (key : String) : Option OptionValue :=
  (options.entries.find? fun e => e.1 == key).map fun e => e.2

/-! ## Adding an option -/

/-- Puts an option at the place of its name in an ascending list, instead of
the one with the same name if there is one. -/
def insertEntry (key : String) (value : OptionValue) :
    List (String × OptionValue) → List (String × OptionValue)
  | [] => [(key, value)]
  | e :: rest =>
    if key < e.1 then (key, value) :: e :: rest
    else if e.1 < key then e :: insertEntry key value rest
    else (key, value) :: rest

/-- An option that is there after one was added is that one or was there
before. -/
theorem eq_or_mem_of_mem_insertEntry {key : String} {value : OptionValue}
    {entries : List (String × OptionValue)} {e : String × OptionValue}
    (h : e ∈ insertEntry key value entries) : e = (key, value) ∨ e ∈ entries := by
  induction entries with
  | nil => exact .inl (by simpa [insertEntry] using h)
  | cons d rest ih =>
    rw [insertEntry] at h
    split at h
    · rcases List.mem_cons.1 h with h | h
      · exact .inl h
      · exact .inr h
    · split at h
      · rcases List.mem_cons.1 h with h | h
        · exact .inr (h ▸ List.mem_cons_self)
        · exact (ih h).imp_right (List.mem_cons_of_mem d)
      · rcases List.mem_cons.1 h with h | h
        · exact .inl h
        · exact .inr (List.mem_cons_of_mem d h)

theorem eq_of_not_lt {a b : String} (h : ¬ a < b) (h' : ¬ b < a) : a = b :=
  String.le_antisymm (String.not_lt.1 h') (String.not_lt.1 h)

/-- Adding an option keeps the names ascending. -/
theorem ascending_insertEntry (key : String) (value : OptionValue)
    {entries : List (String × OptionValue)} (h : entries.Pairwise (fun a b => a.1 < b.1)) :
    (insertEntry key value entries).Pairwise (fun a b => a.1 < b.1) := by
  induction entries with
  | nil => simp [insertEntry]
  | cons e rest ih =>
    obtain ⟨first, later⟩ := List.pairwise_cons.1 h
    rw [insertEntry]
    split
    · rename_i before
      refine List.pairwise_cons.2 ⟨fun d hd => ?_, h⟩
      rcases List.mem_cons.1 hd with rfl | hd
      · exact before
      · exact String.lt_trans before (first d hd)
    · split
      · rename_i after
        refine List.pairwise_cons.2 ⟨fun d hd => ?_, ih later⟩
        rcases eq_or_mem_of_mem_insertEntry hd with rfl | hd
        · exact after
        · exact first d hd
      · rename_i notBefore notAfter
        have same : key = e.1 := eq_of_not_lt notBefore notAfter
        exact List.pairwise_cons.2 ⟨fun d hd => same ▸ first d hd, later⟩

/-- The options with one more, which replaces an earlier one of its name. -/
def insert (options : Options) (key : String) (value : OptionValue) : Options where
  entries := insertEntry key value options.entries
  ascending := ascending_insertEntry key value options.ascending

/-- The options without the one of a given name. It need not be there. -/
def erase (options : Options) (key : String) : Options where
  entries := options.entries.filter fun e => e.1 != key
  ascending := options.ascending.filter _

/-- The options of a list; of two with the same name the later one stays. -/
def ofList (entries : List (String × OptionValue)) : Options :=
  entries.foldl (fun options e => options.insert e.1 e.2) empty

/-! ## What the operations do to a look-up -/

/-- **An option that was added is found in the form in which it was added
last.** This and the next three statements are all that is used of adding and
erasing. -/
@[simp] theorem get?_insert_self (options : Options) (key : String) (value : OptionValue) :
    (options.insert key value).get? key = some value := by
  obtain ⟨entries, ascending⟩ := options
  simp only [get?, insert]
  clear ascending
  induction entries with
  | nil => simp [insertEntry]
  | cons e rest ih =>
    rw [insertEntry]
    split
    · simp
    · split
      · rename_i after
        have different : e.1 ≠ key := fun h => String.lt_irrefl key (h ▸ after)
        simpa [List.find?_cons, different] using ih
      · simp

@[simp] theorem get?_insert_of_ne (options : Options) {key other : String} (value : OptionValue)
    (h : other ≠ key) : (options.insert key value).get? other = options.get? other := by
  obtain ⟨entries, ascending⟩ := options
  simp only [get?, insert]
  clear ascending
  have different : ¬ key = other := fun h' => h h'.symm
  induction entries with
  | nil => simp [insertEntry, different]
  | cons e rest ih =>
    rw [insertEntry]
    split
    · simp [List.find?_cons, different]
    · split
      · by_cases he : e.1 = other <;> simp [he, ih]
      · rename_i notBefore notAfter
        have same : key = e.1 := eq_of_not_lt notBefore notAfter
        simp [different, ← same]

/-- An option that was erased is not found. -/
@[simp] theorem get?_erase_self (options : Options) (key : String) :
    (options.erase key).get? key = none := by
  simp [get?, erase]

@[simp] theorem get?_erase_of_ne (options : Options) {key other : String} (h : other ≠ key) :
    (options.erase key).get? other = options.get? other := by
  obtain ⟨entries, ascending⟩ := options
  simp only [get?, erase]
  clear ascending
  induction entries with
  | nil => rfl
  | cons e rest ih =>
    by_cases he : e.1 = key
    · have different : (e.1 == other) = false := by simpa [he] using fun h' => h h'.symm
      rw [List.filter_cons_of_neg (by simp [he]), ih, List.find?_cons, different]
    · rw [List.filter_cons_of_pos (by simp [he]), List.find?_cons, List.find?_cons]
      cases e.1 == other
      · exact ih
      · rfl

end Options

end SchemaPlan
