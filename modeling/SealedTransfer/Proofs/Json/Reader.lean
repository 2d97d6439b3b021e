/-
# SealedTransfer.Proofs.Json.Reader — the text of a value spells that value

The compact text of a value is read back as the value, whatever follows it, as long as what follows
cannot be taken for more digits. Strings go character by character: an escape names the code point of its
character, and no character is half of a surrogate pair. Values go by their structure: a list is read back
if its items are, an object if its members are. A value takes no deeper recursion than its text is long.
-/
import SealedTransfer.Json.Reader
import SealedTransfer.Proofs.Text.Digits

namespace SealedTransfer.Json

open Text (digitChar digitValues)

/-! ## Strings -/

/-- A control is written with four hexadecimal digits. -/
theorem hex4?_fixedDigits {code : Nat} (h : code < 0x20) :
    ∃ a b c d, Text.fixedDigits 16 4 code = [a, b, c, d] ∧ hex4? a b c d = some code := by
  refine ⟨_, _, _, _, rfl, ?_⟩
  have digit (n : Nat) := Text.hexValue?_digitChar (Nat.mod_lt n (show 16 > 0 by decide))
  simp only [hex4?, digit]
  show some _ = some code
  congr 1
  omega

section Strings

variable {text rest : List Char} {codes : List Nat}

/-- A short escape names a code point. -/
theorem readCodes_short {c : Char} {code : Nat} (escape : shortEscape? c = some code)
    (short : c ≠ 'u') (read : readCodes text = some (codes, rest)) :
    readCodes ('\\' :: c :: text) = some (code :: codes, rest) := by
  rw [readCodes.eq_4 _ _ fun _ _ _ _ _ same => absurd same short, escape, read]
  rfl

/-- A long escape names a code point. -/
theorem readCodes_long {a b c d : Char} {code : Nat} (escape : hex4? a b c d = some code)
    (read : readCodes text = some (codes, rest)) :
    readCodes ('\\' :: 'u' :: a :: b :: c :: d :: text) = some (code :: codes, rest) := by
  rw [readCodes, escape, read]
  rfl

/-- A character that needs no escape stands for itself. -/
theorem readCodes_plain {c : Char} (noQuote : c ≠ '"') (noEscape : c ≠ '\\')
    (noControl : 0x20 ≤ c.toNat) (read : readCodes text = some (codes, rest)) :
    readCodes (c :: text) = some (c.toNat :: codes, rest) := by
  have plain : ¬ (c.toNat < 0x20 ∨ c = '\\') := by
    rintro (control | escape)
    · omega
    · exact noEscape escape
  rw [readCodes.eq_5 _ _ noQuote (fun _ _ _ _ _ same => absurd same noEscape)
    fun _ _ same => absurd same noEscape, if_neg plain, read]
  rfl

/-- One character is read back, escaped or not. -/
theorem readCodes_escapeChar (c : Char) (read : readCodes text = some (codes, rest)) :
    readCodes (escapeChar c ++ text) = some (c.toNat :: codes, rest) := by
  unfold escapeChar
  split
  · rename_i quote
    subst quote
    exact readCodes_short rfl (by decide) read
  rename_i noQuote
  split
  · rename_i escape
    subst escape
    exact readCodes_short rfl (by decide) read
  rename_i noEscape
  split
  · rename_i backspace
    exact readCodes_short (congrArg some backspace.symm) (by decide) read
  split
  · rename_i formFeed
    exact readCodes_short (congrArg some formFeed.symm) (by decide) read
  split
  · rename_i lineFeed
    subst lineFeed
    exact readCodes_short rfl (by decide) read
  split
  · rename_i carriageReturn
    subst carriageReturn
    exact readCodes_short rfl (by decide) read
  split
  · rename_i tab
    subst tab
    exact readCodes_short rfl (by decide) read
  split
  · rename_i control
    obtain ⟨x, y, z, w, written, escape⟩ := hex4?_fixedDigits control
    rw [written]
    exact readCodes_long escape read
  · rename_i noControl
    exact readCodes_plain noQuote noEscape (by omega) read

/-- The characters of a text are read back up to the closing quote. -/
theorem readCodes_flatMap_escapeChar (text rest : List Char) :
    readCodes (text.flatMap escapeChar ++ '"' :: rest) = some (text.map Char.toNat, rest) := by
  induction text with
  | nil => rfl
  | cons c text ih =>
    rw [List.flatMap_cons, List.append_assoc]
    exact readCodes_escapeChar c ih

/-- No character is half of a surrogate pair. -/
theorem not_surrogate (c : Char) :
    isHighSurrogate c.toNat = false ∧ isLowSurrogate c.toNat = false := by
  have scalar : c.toNat < 0xD800 ∨ 0xDFFF < c.toNat := by
    rcases c.valid with below | ⟨above, -⟩
    · exact .inl below
    · exact .inr above
  simp only [isHighSurrogate, isLowSurrogate, Bool.and_eq_false_iff, decide_eq_false_iff_not]
  omega

/-- The characters of a text have nothing to join. -/
theorem joinSurrogates_map_toNat (text : List Char) :
    joinSurrogates (text.map Char.toNat) = some text := by
  induction text with
  | nil => rfl
  | cons c text ih =>
    obtain ⟨noHigh, noLow⟩ := not_surrogate c
    rw [List.map_cons, joinSurrogates.eq_def]
    simp [noHigh, noLow, ih, Char.ofNat_toNat]

/-- **A string is read back from its text.** -/
theorem readString_escaped (text : String) (rest : List Char) :
    readString (text.toList.flatMap escapeChar ++ '"' :: rest) = some (some text, rest) := by
  rw [readString, readCodes_flatMap_escapeChar]
  show some ((joinSurrogates (text.toList.map Char.toNat)).map String.ofList, rest) = _
  rw [joinSurrogates_map_toNat, Option.map_some, String.ofList_toList]

end Strings

/-! ## Numbers -/

/-- What may follow a value in the text of another: nothing, or a comma or a closing bracket. -/
def Closes (rest : List Char) : Prop := ∀ c ∈ rest.head?, c = ',' ∨ c = ']' ∨ c = '}'

/-- The digits of a number end where something else begins. -/
theorem spanDigits_map_digitChar {values : List Nat} (digits : ∀ value ∈ values, value < 10)
    {rest : List Char} (closes : Closes rest) :
    spanDigits (values.map digitChar ++ rest) = (values, rest) := by
  induction values with
  | nil =>
    cases rest with
    | nil => rfl
    | cons c rest =>
      have other : Text.decimalValue? c = none := by
        rcases closes c rfl with rfl | rfl | rfl <;> rfl
      rw [List.map_nil, List.nil_append, spanDigits, other]
  | cons value values ih =>
    rw [List.map_cons, List.cons_append, spanDigits,
      Text.decimalValue?_digitChar (digits value List.mem_cons_self),
      ih fun value member => digits value (List.mem_cons_of_mem _ member)]

/-- A whole number is read back from its digits. -/
theorem readWhole_digits (n : Nat) {rest : List Char} (closes : Closes rest) :
    readWhole (Text.digits 10 n ++ rest) = some (n, rest) := by
  have spelled := Text.ofDecimalDigits_digitValues n
  have span : spanDigits ((digitValues n).map digitChar ++ rest) = (digitValues n, rest) :=
    spanDigits_map_digitChar (fun _ => Text.lt_of_mem_digitValues) closes
  obtain ⟨first, others, front, leading⟩ := Text.digitValues_eq_cons n
  rw [readWhole, Text.digits_ten, span, front]
  cases first with
  | succ first =>
    rw [front] at spelled
    exact congrArg (fun n => some (n, rest)) spelled
  | zero =>
    -- only zero has a zero in front, and then it is alone
    obtain rfl := leading rfl
    rw [digitValues, if_pos (by decide)] at front
    cases front
    rfl

/-- What follows a value has neither a fraction nor an exponent in front. -/
theorem readMagnitude_digits (negative : Bool) (n : Nat) {rest : List Char} (closes : Closes rest) :
    readMagnitude negative (Text.digits 10 n ++ rest)
      = some (if negative && n == 0 then .unreadable
          else if negative then .integer (-(n : Int)) else .integer n, rest) := by
  have noFraction : readFraction rest = some (false, rest) := by
    cases rest with
    | nil => rfl
    | cons c rest => rcases closes c rfl with rfl | rfl | rfl <;> rfl
  have noExponent : readExponent rest = some (false, rest) := by
    cases rest with
    | nil => rfl
    | cons c rest => rcases closes c rfl with rfl | rfl | rfl <;> rfl
  rw [readMagnitude, readWhole_digits n closes]
  simp only [Option.bind_eq_bind, Option.bind_some, noFraction, noExponent, Bool.false_or]

/-- **A whole number is read back from its text.** -/
theorem readNumber_integer (z : Int) {rest : List Char} (closes : Closes rest) :
    readNumber (Text.integer z ++ rest) = some (.integer z, rest) := by
  cases z with
  | negSucc n => exact readMagnitude_digits true (n + 1) closes
  | ofNat n =>
    have read := readMagnitude_digits false n closes
    show readNumber (Text.digits 10 n ++ rest) = _
    have unsigned (tail : List Char) : Text.digits 10 n ++ rest ≠ '-' :: tail := by
      intro signed
      rw [signed] at read
      cases read
    rw [readNumber.eq_2 _ unsigned, read]
    rfl

/-! ## Values -/

/-- A value all of whose parts a message may read. -/
inductive Readable : Json → Prop
  | null : Readable .null
  | bool (value : Bool) : Readable (.bool value)
  | integer (value : Int) : Readable (.integer value)
  | string (text : String) : Readable (.string text)
  | array {items : List Json} (items_readable : ∀ item ∈ items, Readable item) :
      Readable (.array items)
  | object {members : List (String × Json)}
      (members_readable : ∀ member ∈ members, Readable member.2) : Readable (.object members)

/-- A value is read back from its text, whatever follows it, within a recursion as deep as its text is
long. -/
def ReadsBack (value : Json) : Prop :=
  ∀ depth rest, (text value).length ≤ depth → Closes rest →
    readValue depth (text value ++ rest) = some (value, rest)

/-- What begins a number begins nothing else, and is no blank. -/
theorem readValue_number {c : Char} (start : c = '-' ∨ ∃ value < 10, c = digitChar value)
    (depth : Nat) (tail : List Char) :
    readValue (depth + 1) (c :: tail) = readNumber (c :: tail) := by
  have other : isSpace c = false ∧ c ∉ ['n', 't', 'f', '"', '[', '{'] := by
    rcases start with rfl | ⟨value, small, rfl⟩
    · decide
    · revert value
      decide
  have skipped : skipSpace (c :: tail) = c :: tail := by
    rw [skipSpace, List.dropWhile_cons, if_neg (by simp [other.1])]
  rw [readValue.eq_2, skipped]
  split
  -- every case but the last is that of a character that begins something else
  all_goals first
    | rfl
    | rename_i same
      injection same with same
      exact absurd (by rw [same]; decide) other.2

/-- A number begins with a sign or a digit. -/
theorem integer_eq_cons (z : Int) : ∃ c tail, Text.integer z = c :: tail ∧
    (c = '-' ∨ ∃ value < 10, c = digitChar value) := by
  cases z with
  | negSucc n => exact ⟨'-', Text.digits 10 (n + 1), rfl, .inl rfl⟩
  | ofNat n =>
    obtain ⟨first, others, front, -⟩ := Text.digitValues_eq_cons n
    have small : first < 10 := Text.lt_of_mem_digitValues (front ▸ List.mem_cons_self)
    refine ⟨digitChar first, others.map digitChar, ?_, .inr ⟨first, small, rfl⟩⟩
    rw [Text.integer, Text.digits_ten, front, List.map_cons]

/-- A text begins with neither a blank nor a closing bracket. -/
theorem text_eq_cons (value : Json) : ∃ c tail, text value = c :: tail ∧
    isSpace c = false ∧ c ≠ ']' := by
  cases value with
  | null => exact ⟨_, _, rfl, rfl, by decide⟩
  | bool value => cases value <;> exact ⟨_, _, rfl, rfl, by decide⟩
  | integer z =>
    obtain ⟨c, tail, front, rfl | ⟨value, small, rfl⟩⟩ := integer_eq_cons z
    · exact ⟨_, _, front, rfl, by decide⟩
    · refine ⟨_, _, front, ?_⟩
      clear front
      revert value
      decide
  | string text => exact ⟨_, _, rfl, rfl, by decide⟩
  | array items => cases items <;> exact ⟨_, _, rfl, rfl, by decide⟩
  | object members => cases members <;> exact ⟨_, _, rfl, rfl, by decide⟩
  | unreadable => exact ⟨_, _, rfl, rfl, by decide⟩

section Parts

variable {text rest rest' : List Char} {depth : Nat}

/-- A list that does not end at once has items. -/
theorem readValue_array {item : Json} {items : List Json} {c : Char} {tail : List Char}
    (front : text = c :: tail) (noSpace : isSpace c = false) (noEnd : c ≠ ']')
    (first : readValue depth text = some (item, rest))
    (others : readItems depth rest = some (items, rest')) :
    readValue (depth + 1) ('[' :: text) = some (.array (item :: items), rest') := by
  have skipped : skipSpace text = text := by
    rw [front, skipSpace, List.dropWhile_cons, if_neg (by simp [noSpace])]
  have opened : skipSpace ('[' :: text) = '[' :: text := rfl
  rw [readValue, opened]
  simp only [skipped]
  split
  · injection front with ends
    exact absurd ends.symm noEnd
  · simp [first, others]

/-- Another item of a list. -/
theorem readItems_cons {item : Json} {items : List Json}
    (first : readValue depth text = some (item, rest))
    (others : readItems depth rest = some (items, rest')) :
    readItems (depth + 1) (',' :: text) = some (item :: items, rest') := by
  show ((readValue depth text).bind fun found => (readItems depth found.2).bind fun more =>
    some (found.1 :: more.1, more.2)) = _
  simp only [first, others, Option.bind_some]

/-- A member of an object. -/
theorem readMember_stringText (name : String) {value : Json}
    (read : readValue depth text = some (value, rest)) :
    readMember (depth + 1) (stringText name ++ ':' :: text) = some ((some name, value), rest) := by
  have named := readString_escaped name (':' :: text)
  show Option.bind (readString ((name.toList.flatMap escapeChar ++ ['"']) ++ ':' :: text)) _ = _
  rw [List.append_assoc, List.singleton_append, named]
  show ((readValue depth text).bind fun found => some ((some name, found.1), found.2)) = _
  rw [read, Option.bind_some]

/-- Another member of an object. -/
theorem readMembers_cons {member : Option String × Json} {members : List (Option String × Json)}
    (first : readMember depth text = some (member, rest))
    (others : readMembers depth rest = some (members, rest')) :
    readMembers (depth + 1) (',' :: text) = some (member :: members, rest') := by
  show ((readMember depth text).bind fun found => (readMembers depth found.2).bind fun more =>
    some (found.1 :: more.1, more.2)) = _
  simp only [first, others, Option.bind_some]

/-- An object that does not end at once has members. -/
theorem readValue_object {member : Option String × Json} {members : List (Option String × Json)}
    (first : readMember depth ('"' :: text) = some (member, rest))
    (others : readMembers depth rest = some (members, rest')) :
    readValue (depth + 1) ('{' :: '"' :: text) = some (ofMembers (member :: members), rest') := by
  show ((readMember depth ('"' :: text)).bind fun found => (readMembers depth found.2).bind fun more =>
    some (ofMembers (found.1 :: more.1), more.2)) = _
  simp only [first, others, Option.bind_some]

end Parts

/-- What follows an item of a list is another item or the end. -/
theorem closes_itemsText (items : List Json) (rest : List Char) :
    Closes (itemsText items ++ rest) := by
  cases items with
  | nil => exact fun c first => .inr (.inl (Option.some.inj first).symm)
  | cons item items => exact fun c first => .inl (Option.some.inj first).symm

/-- What follows a member of an object is another member or the end. -/
theorem closes_membersText (members : List (String × Json)) (rest : List Char) :
    Closes (membersText members ++ rest) := by
  cases members with
  | nil => exact fun c first => .inr (.inr (Option.some.inj first).symm)
  | cons member members => exact fun c first => .inl (Option.some.inj first).symm

/-- The items after the first are read back up to the closing bracket. -/
theorem readItems_itemsText {items : List Json} (h : ∀ item ∈ items, ReadsBack item) (depth : Nat)
    (rest : List Char) (deep : (itemsText items).length ≤ depth) :
    readItems depth (itemsText items ++ rest) = some (items, rest) := by
  induction items generalizing depth with
  | nil =>
    obtain ⟨depth, rfl⟩ := Nat.exists_eq_add_of_le' deep
    rfl
  | cons item items ih =>
    simp only [itemsText, List.cons_append, List.length_cons, List.length_append] at deep
    obtain ⟨depth, rfl⟩ := Nat.exists_eq_add_of_le' (Nat.le_trans (Nat.le_add_left 1 _) deep)
    have first := h item List.mem_cons_self depth (itemsText items ++ rest) (by omega)
      (closes_itemsText items rest)
    have others := ih (fun other member => h other (List.mem_cons_of_mem _ member)) depth (by omega)
    rw [← List.append_assoc] at first
    exact readItems_cons first others

/-- The members after the first are read back up to the closing brace. -/
theorem readMembers_membersText {members : List (String × Json)}
    (h : ∀ member ∈ members, ReadsBack member.2) (depth : Nat) (rest : List Char)
    (deep : (membersText members).length ≤ depth) :
    readMembers depth (membersText members ++ rest)
      = some (members.map fun member => (some member.1, member.2), rest) := by
  induction members generalizing depth with
  | nil =>
    obtain ⟨depth, rfl⟩ := Nat.exists_eq_add_of_le' deep
    rfl
  | cons member members ih =>
    obtain ⟨name, value⟩ := member
    simp only [membersText, List.cons_append, List.length_cons, List.length_append] at deep
    obtain ⟨depth, rfl⟩ := Nat.exists_eq_add_of_le' (show 2 ≤ depth by omega)
    have back : ReadsBack value := h (name, value) List.mem_cons_self
    have read := back depth (membersText members ++ rest) (by omega)
      (closes_membersText members rest)
    have others := ih (fun other member => h other (List.mem_cons_of_mem _ member)) (depth + 1)
      (by omega)
    have first := readMember_stringText name read
    have parts : membersText ((name, value) :: members) ++ rest
        = ',' :: (stringText name ++ ':' :: (text value ++ (membersText members ++ rest))) := by
      simp [membersText]
    rw [parts]
    exact readMembers_cons first others

/-- Members whose names are texts are those of an object. -/
theorem ofMembers_map_some (members : List (String × Json)) :
    ofMembers (members.map fun member => (some member.1, member.2)) = .object members := by
  have mapped (named : Option String × Json → Option (String × Json))
      (same : ∀ name value, named (some name, value) = some (name, value)) :
      (members.map fun member => (some member.1, member.2)).mapM named = some members := by
    induction members with
    | nil => rfl
    | cons member members ih =>
      rw [List.map_cons, List.mapM_cons, ih, same]
      rfl
  rw [ofMembers, mapped _ fun _ _ => rfl]

/-- No value is read without any depth. -/
theorem exists_depth {value : Json} {depth : Nat} (deep : (text value).length ≤ depth) :
    ∃ less, depth = less + 1 := by
  obtain ⟨c, tail, front, -⟩ := text_eq_cons value
  rw [front, List.length_cons] at deep
  exact ⟨depth - 1, by omega⟩

/-! ## Values by their kinds -/

theorem readsBack_integer (z : Int) : ReadsBack (.integer z) := by
  intro depth rest deep closes
  obtain ⟨depth, rfl⟩ := exists_depth deep
  obtain ⟨c, tail, front, start⟩ := integer_eq_cons z
  have read := readNumber_integer z closes
  rw [text]
  rw [front, List.cons_append] at read ⊢
  rw [readValue_number start, read]

theorem readsBack_string (value : String) : ReadsBack (.string value) := by
  intro depth rest deep closes
  obtain ⟨depth, rfl⟩ := exists_depth deep
  show ((readString (value.toList.flatMap escapeChar ++ ['"'] ++ rest)).bind fun found =>
    some (found.1.elim Json.unreadable Json.string, found.2)) = _
  rw [List.append_assoc, List.singleton_append, readString_escaped]
  rfl

/-- A list is read back if its items are. -/
theorem readsBack_array {items : List Json} (h : ∀ item ∈ items, ReadsBack item) :
    ReadsBack (.array items) := by
  intro depth rest deep closes
  obtain ⟨depth, rfl⟩ := exists_depth deep
  cases items with
  | nil => rfl
  | cons item items =>
    simp only [text, List.cons_append, List.length_cons, List.length_append] at deep
    obtain ⟨c, tail, front, noSpace, noEnd⟩ := text_eq_cons item
    have first := h item List.mem_cons_self depth (itemsText items ++ rest) (by omega)
      (closes_itemsText items rest)
    have others := readItems_itemsText
      (fun other member => h other (List.mem_cons_of_mem _ member)) depth rest (by omega)
    have parts : text (.array (item :: items)) ++ rest
        = '[' :: (text item ++ (itemsText items ++ rest)) := by
      simp [text]
    have front' : text item ++ (itemsText items ++ rest)
        = c :: (tail ++ (itemsText items ++ rest)) := by
      rw [front, List.cons_append]
    rw [parts]
    exact readValue_array front' noSpace noEnd first others

/-- An object is read back if the values of its members are. -/
theorem readsBack_object {members : List (String × Json)}
    (h : ∀ member ∈ members, ReadsBack member.2) : ReadsBack (.object members) := by
  intro depth rest deep closes
  obtain ⟨depth, rfl⟩ := exists_depth deep
  cases members with
  | nil => rfl
  | cons member members =>
    obtain ⟨name, value⟩ := member
    simp only [text, List.cons_append, List.length_cons, List.length_append] at deep
    obtain ⟨depth, rfl⟩ : ∃ less, depth = less + 1 := ⟨depth - 1, by omega⟩
    have back : ReadsBack value := h (name, value) List.mem_cons_self
    have read := back depth (membersText members ++ rest) (by omega)
      (closes_membersText members rest)
    have others := readMembers_membersText
      (fun other member => h other (List.mem_cons_of_mem _ member)) (depth + 1) rest (by omega)
    have first := readMember_stringText name read
    have parts : text (.object ((name, value) :: members)) ++ rest
        = '{' :: (stringText name ++ ':' :: (text value ++ (membersText members ++ rest))) := by
      simp [text]
    rw [parts, ← ofMembers_map_some]
    exact readValue_object first others

/-- **A value is read back from its text.** -/
theorem Readable.readsBack {value : Json} (h : value.Readable) : value.ReadsBack := by
  induction h with
  | null =>
    intro depth rest deep closes
    obtain ⟨depth, rfl⟩ := exists_depth deep
    rfl
  | bool value =>
    intro depth rest deep closes
    obtain ⟨depth, rfl⟩ := exists_depth deep
    cases value <;> rfl
  | integer z => exact readsBack_integer z
  | string value => exact readsBack_string value
  | array _ ih => exact readsBack_array ih
  | object _ ih => exact readsBack_object ih

/-- **The text of a readable value spells it.** -/
theorem Readable.parse?_compact {value : Json} (h : value.Readable) :
    parse? value.compact = some value := by
  have read := h.readsBack (4 * (text value).length + 4) [] (by omega) nofun
  rw [List.append_nil] at read
  rw [parse?, compact, String.toList_ofList, ofText?, read]
  rfl

end SealedTransfer.Json
