import DocStubs.Data.Json

/-!
# Writing and reading JSON texts

A datum that holds only what can be written down is read from its text as it was. The printer and
the reader go over a datum in the same way, so the proof is one induction over the datum, its items
and its fields.

Each part is read from the start of a longer text. What follows a number may not go on with it, and
inside of lists and records the lines end in a comma or a new line. The reader may take fewer steps
than its fuel: every character of a datum pays for two of them.

## Main definitions

* `Datum.IsPlain` — data that can be written down
* `Json.Stops` — a text that does not go on with a number

## Main results

* `Json.quoted?_quote` — a quoted text is read
* `Json.unsigned?_toDigits` — a number is read
* `Json.value?_prettyAt` — a datum is read at the start of a text
* `Json.parse?_pretty` — a datum is read from its text
-/

namespace DocStubs

/-! ### Plain data -/

namespace Datum

mutual

/-- Data that can be written down: all numbers are natural, and no text is garbled. -/
def IsPlain : Datum → Prop
  | .null | .flag _ | .natural _ | .text _ => True
  | .number | .garbled => False
  | .list items => ArePlain items
  | .record fields => HavePlain fields

/-- Data that can all be written down. -/
def ArePlain : List Datum → Prop
  | [] => True
  | item :: rest => IsPlain item ∧ ArePlain rest

/-- Fields with keys and values that can be written down. -/
def HavePlain : List (Option String × Datum) → Prop
  | [] => True
  | (key, value) :: rest => key.isSome = true ∧ IsPlain value ∧ HavePlain rest

end

theorem arePlain_iff {items : List Datum} : ArePlain items ↔ ∀ item ∈ items, item.IsPlain := by
  induction items with
  | nil => simp [ArePlain]
  | cons item items ih => simp [ArePlain, ih]

theorem havePlain_iff {fields : List (Option String × Datum)} :
    HavePlain fields ↔ ∀ field ∈ fields, field.1.isSome = true ∧ field.2.IsPlain := by
  induction fields with
  | nil => simp [HavePlain]
  | cons field fields ih => simp [HavePlain, ih, and_assoc]

theorem isPlain_object {fields : List (String × Datum)} :
    (object fields).IsPlain ↔ ∀ field ∈ fields, field.2.IsPlain := by
  rw [object, IsPlain, havePlain_iff, List.forall_mem_map]
  simp

theorem isPlain_ofText? (text? : Option String) : (ofText? text?).IsPlain := by
  cases text? <;> trivial

end Datum

namespace Json

variable {c : Char} {chars rest : List Char}

/-! ### Texts -/

theorem hexValue?_hexDigit : ∀ value < 16, hexValue? (hexDigit value) = some value := by decide

theorem hexNumber?_hexDigits {code : Nat} (h : code < 0x20) :
    hexNumber? ['0', '0', hexDigit (code / 16), hexDigit (code % 16)] = some code := by
  have hhigh := hexValue?_hexDigit (code / 16) (by omega)
  have hlow := hexValue?_hexDigit (code % 16) (by omega)
  have hzero : hexValue? '0' = some 0 := by decide
  simp only [hexNumber?, List.foldlM_cons, List.foldlM_nil, hzero, hhigh, hlow, Option.map_some,
    Option.bind_eq_bind, Option.bind_some, Option.pure_def, Option.some.injEq]
  omega

theorem parts?_escape {letter : Char} (hletter : letter ≠ 'u') (h : escape? letter = some c) :
    parts? ('\\' :: letter :: rest) =
      (parts? rest).map fun (parts, after) => (.char c :: parts, after) := by
  rw [parts?, h]
  · cases parts? rest <;> rfl
  · rintro _ _ _ _ _ hsame _
    exact hletter hsame

theorem parts?_code {code : Nat} (h : code < 0x20) :
    parts? ('\\' :: 'u' :: '0' :: '0' :: hexDigit (code / 16) :: hexDigit (code % 16) :: rest) =
      (parts? rest).map fun (parts, after) => (.char (Char.ofNat code) :: parts, after) := by
  have hcode : Part.ofCode code = .char (Char.ofNat code) := by
    have hhalf : ¬ (0xD800 ≤ code) := by omega
    simp [Part.ofCode, hhalf]
  rw [parts?, hexNumber?_hexDigits h]
  cases parts? rest with
  | none => rfl
  | some found => simp [hcode]

theorem parts?_cons (hquote : c ≠ '"') (hbackslash : c ≠ '\\') (h : ¬ c.toNat < 0x20) :
    parts? (c :: rest) = (parts? rest).map fun (parts, after) => (.char c :: parts, after) := by
  rw [parts?]
  · simp [hbackslash, h]
  · exact hquote
  · rintro _ _ _ _ _ hsame _
    exact hbackslash hsame
  · rintro _ _ hsame _
    exact hbackslash hsame

/-- The characters that have a letter of their own after a backslash. -/
def escaped : List Char := ['"', '\\', '\x08', '\x0c', '\n', '\r', '\t']

theorem quoteChar_of_mem_escaped : ∀ c ∈ escaped,
    ∃ letter, letter ≠ 'u' ∧ escape? letter = some c ∧ quoteChar c = ['\\', letter] := by
  simp only [escaped, List.forall_mem_cons]
  exact ⟨⟨'"', by decide, rfl, rfl⟩, ⟨'\\', by decide, rfl, rfl⟩,
    ⟨'b', by decide, rfl, rfl⟩, ⟨'f', by decide, rfl, rfl⟩, ⟨'n', by decide, rfl, rfl⟩,
    ⟨'r', by decide, rfl, rfl⟩, ⟨'t', by decide, rfl, rfl⟩, List.forall_mem_nil _⟩

/-- A character is read from what is written for it. -/
theorem parts?_quoteChar (c : Char) (rest : List Char) :
    parts? (quoteChar c ++ rest) =
      (parts? rest).map fun (parts, after) => (.char c :: parts, after) := by
  by_cases hescaped : c ∈ escaped
  · obtain ⟨letter, hletter, hc, hquote⟩ := quoteChar_of_mem_escaped c hescaped
    rw [hquote]
    exact parts?_escape hletter hc
  · simp only [escaped, List.mem_cons, List.not_mem_nil, or_false, not_or] at hescaped
    obtain ⟨hquote, hbackslash, hothers⟩ := hescaped
    by_cases hcode : c.toNat < 0x20
    · have hcodes := @parts?_code rest _ hcode
      rw [Char.ofNat_toNat] at hcodes
      simpa [quoteChar, hquote, hbackslash, hothers, hcode] using hcodes
    · have hplain : quoteChar c = [c] := by simp [quoteChar, hquote, hbackslash, hothers, hcode]
      rw [hplain]
      exact parts?_cons hquote hbackslash hcode

theorem join?_map_char (chars : List Char) : join? (chars.map .char) = some chars := by
  induction chars with
  | nil => rfl
  | cons c rest ih => rw [List.map_cons, join?, ih, Option.map_some]

theorem parts?_flatMap_quoteChar (chars rest : List Char) :
    parts? (chars.flatMap quoteChar ++ '"' :: rest) = some (chars.map .char, rest) := by
  induction chars with
  | nil => rfl
  | cons c chars ih =>
    rw [List.flatMap_cons, List.append_assoc, parts?_quoteChar, ih]
    rfl

/-- A text is read from its quoted form. -/
theorem quoted?_quote (text : String) (rest : List Char) :
    quoted? (text.toList.flatMap quoteChar ++ '"' :: rest) = some (some text, rest) := by
  rw [quoted?, parts?_flatMap_quoteChar]
  simp [join?_map_char]

/-! ### Numbers -/

/-- A text that does not go on with a number. -/
def Stops (rest : List Char) : Prop :=
  ∀ c ∈ rest.head?, c.isDigit = false ∧ c ≠ '.' ∧ c ≠ 'e' ∧ c ≠ 'E'

theorem stops_cons (h : c.isDigit = false) (hdot : c ≠ '.') (he : c ≠ 'e') (hE : c ≠ 'E') :
    Stops (c :: rest) := by
  rintro c ⟨⟩
  exact ⟨h, hdot, he, hE⟩

theorem stops_newline (rest : List Char) : Stops ('\n' :: rest) :=
  stops_cons (by decide) (by decide) (by decide) (by decide)

theorem stops_comma (rest : List Char) : Stops (',' :: rest) :=
  stops_cons (by decide) (by decide) (by decide) (by decide)

/-- Only zero starts with the digit zero. -/
theorem toDigits_cases (n : Nat) :
    n = 0 ∨ ∃ c more, Nat.toDigits 10 n = c :: more ∧ c ≠ '0' := by
  induction n using Nat.strongRecOn with
  | ind n ih =>
    by_cases hsmall : n < 10
    · rw [Nat.toDigits_of_lt_base hsmall]
      have hdigit : ∀ n < 10, n = 0 ∨ Nat.digitChar n ≠ '0' := by decide
      exact (hdigit n hsmall).imp_right fun hne => ⟨_, [], rfl, hne⟩
    · obtain hzero | ⟨c, more, hmore, hc⟩ := ih (n / 10) (by omega)
      · omega
      · refine Or.inr ⟨c, more ++ [(n % 10).digitChar], ?_, hc⟩
        rw [Nat.toDigits_of_base_le (by decide) (by omega), hmore, List.cons_append]

theorem decimal_toDigits (n : Nat) : decimal (Nat.toDigits 10 n) = n :=
  Nat.ofDigitChars_ten_toDigits

theorem takeWhile_toDigits (n : Nat) (h : Stops rest) :
    (Nat.toDigits 10 n ++ rest).takeWhile Char.isDigit = Nat.toDigits 10 n := by
  have hdigits : ∀ c ∈ Nat.toDigits 10 n, c.isDigit = true := fun c hc =>
    Nat.isDigit_of_mem_toDigits (by decide) (by decide) hc
  rw [List.takeWhile_append_of_pos hdigits]
  cases rest with
  | nil => simp
  | cons c rest => simp [(h c rfl).1]

theorem afterFraction?_of_stops (h : Stops rest) : afterFraction? rest = some rest := by
  cases rest with
  | nil => rfl
  | cons c rest =>
    rw [afterFraction?]
    rintro _ hdot
    exact (h c rfl).2.1 (List.cons.inj hdot).1

theorem afterExponent?_of_stops (h : Stops rest) : afterExponent? rest = some rest := by
  cases rest with
  | nil => rfl
  | cons c rest =>
    obtain ⟨-, -, he, hE⟩ := h c rfl
    simp [afterExponent?, he, hE]

/-- A number is read from its digits. -/
theorem unsigned?_toDigits (n : Nat) (h : Stops rest) :
    unsigned? (Nat.toDigits 10 n ++ rest) = some (.natural n, rest) := by
  rcases toDigits_cases n with rfl | ⟨c, more, hmore, hc⟩
  · have hzero : decimal ['0'] = 0 := rfl
    show unsigned? ('0' :: rest) = _
    unfold unsigned?
    simp [afterFraction?_of_stops h, afterExponent?_of_stops h, hzero]
  · unfold unsigned?
    split
    · rename_i hsame
      rw [hmore] at hsame
      exact absurd (List.cons.inj hsame).1 hc
    · rw [takeWhile_toDigits n h]
      simp [Nat.toDigits_ne_nil, afterFraction?_of_stops h, afterExponent?_of_stops h,
        decimal_toDigits]

theorem exists_toDigits_eq (n : Nat) :
    ∃ c more, Nat.toDigits 10 n = c :: more ∧ c.isDigit = true := by
  cases hdigits : Nat.toDigits 10 n with
  | nil => exact absurd hdigits Nat.toDigits_ne_nil
  | cons c more =>
    have hc : c ∈ Nat.toDigits 10 n := hdigits ▸ List.mem_cons_self
    exact ⟨c, more, rfl, Nat.isDigit_of_mem_toDigits (by decide) (by decide) hc⟩

theorem ne_of_isDigit {d : Char} (h : c.isDigit = true) (hd : d.isDigit = false) : c ≠ d := by
  rintro rfl
  rw [h] at hd
  cases hd

theorem isBlank_of_isDigit (h : c.isDigit = true) : isBlank c = false := by
  simp [isBlank, ne_of_isDigit h]

/-! ### Lines -/

theorem skip_cons (h : isBlank c = false) : skip (c :: rest) = c :: rest := by
  simp [skip, h]

theorem skip_newline (rest : List Char) : skip ('\n' :: rest) = skip rest := rfl

theorem skip_space (rest : List Char) : skip (' ' :: rest) = skip rest := rfl

theorem skip_colon (rest : List Char) : skip (':' :: rest) = ':' :: rest := rfl

/-- The indentation of a line is skipped. -/
theorem skip_indentation (h : isBlank c = false) (depth : Nat) :
    skip ((indentation depth).toList ++ c :: rest) = c :: rest := by
  have hblank : ∀ c ∈ (indentation depth).toList, isBlank c = true := by
    intro c hc
    rw [indentation, String.toList_ofList] at hc
    rw [List.eq_of_mem_replicate hc]
    rfl
  rw [skip, List.dropWhile_append_of_pos hblank]
  exact skip_cons h

/-- What closes a list or a record stands on a line of its own. -/
theorem skip_closing (h : isBlank c = false) (depth : Nat) (rest : List Char) :
    skip ('\n' :: ((indentation depth).toList ++ c :: rest)) = c :: rest :=
  skip_indentation h depth

/-- Lines with commas between them. -/
def commaLines (depth : Nat) (lines : List String) : List Char :=
  (",\n".intercalate (lines.map (indentation depth ++ ·))).toList

theorem commaLines_singleton (depth : Nat) (line : String) :
    commaLines depth [line] = (indentation depth).toList ++ line.toList := by
  simp [commaLines]

theorem commaLines_cons (depth : Nat) (line next : String) (lines : List String) :
    commaLines depth (line :: next :: lines) =
      (indentation depth).toList ++
        (line.toList ++ ',' :: '\n' :: commaLines depth (next :: lines)) := by
  simp [commaLines, String.intercalate_cons_of_ne_nil]

theorem between_eq {opening closing : String} (depth : Nat) {lines : List String}
    (h : lines ≠ []) :
    (between opening closing depth lines).toList =
      opening.toList ++ ('\n' :: (commaLines (depth + 1) lines ++
        '\n' :: ((indentation depth).toList ++ closing.toList))) := by
  simp [between, commaLines, h]

theorem exists_between_eq (opening closing : String) (depth : Nat) (lines : List String) :
    ∃ more, (between opening closing depth lines).toList = opening.toList ++ more := by
  by_cases h : lines = []
  · exact ⟨closing.toList, by simp [between, h]⟩
  · exact ⟨_, between_eq depth h⟩

/-! ### How a datum starts -/

/-- What is written for a datum does not start with a blank. -/
theorem exists_prettyAt_eq (depth : Nat) (datum : Datum) :
    ∃ c more, (prettyAt depth datum).toList = c :: more ∧ isBlank c = false := by
  cases datum with
  | null => exact ⟨'n', "ull".toList, by simp [prettyAt], rfl⟩
  | flag value =>
    cases value with
    | false => exact ⟨'f', "alse".toList, by simp [prettyAt], rfl⟩
    | true => exact ⟨'t', "rue".toList, by simp [prettyAt], rfl⟩
  | natural value =>
    obtain ⟨c, more, hdigits, hc⟩ := exists_toDigits_eq value
    refine ⟨c, more, ?_, isBlank_of_isDigit hc⟩
    rw [prettyAt, ← hdigits]
    exact Nat.toList_repr
  | number => exact ⟨'0', [], by simp [prettyAt], rfl⟩
  | text value =>
    refine ⟨'"', value.toList.flatMap quoteChar ++ ['"'], ?_, rfl⟩
    simp [prettyAt, quote]
  | garbled => exact ⟨'"', ['"'], by simp [prettyAt], rfl⟩
  | list items =>
    obtain ⟨more, hmore⟩ := exists_between_eq "[" "]" depth (prettyItems (depth + 1) items)
    exact ⟨'[', more, by rw [prettyAt, hmore]; rfl, rfl⟩
  | record fields =>
    obtain ⟨more, hmore⟩ :=
      exists_between_eq "\x7b" "\x7d" depth (prettyFields (depth + 1) fields)
    exact ⟨'\x7b', more, by rw [prettyAt, hmore]; rfl, rfl⟩

theorem length_prettyAt_pos (depth : Nat) (datum : Datum) :
    1 ≤ (prettyAt depth datum).toList.length := by
  obtain ⟨c, more, hchars, -⟩ := exists_prettyAt_eq depth datum
  rw [hchars]
  exact Nat.succ_pos _

theorem skip_prettyAt (depth : Nat) (datum : Datum) (rest : List Char) :
    skip ((prettyAt depth datum).toList ++ rest) = (prettyAt depth datum).toList ++ rest := by
  obtain ⟨c, more, hchars, hc⟩ := exists_prettyAt_eq depth datum
  rw [hchars]
  exact skip_cons hc

theorem skip_line (depth : Nat) (datum : Datum) (rest : List Char) :
    skip ((indentation depth).toList ++ ((prettyAt depth datum).toList ++ rest)) =
      (prettyAt depth datum).toList ++ rest := by
  obtain ⟨c, more, hchars, hc⟩ := exists_prettyAt_eq depth datum
  rw [hchars]
  exact skip_indentation hc depth

/-! ### Steps of the reader -/

section Steps

variable {fuel : Nat} {key : String} {item value : Datum} {items : List Datum}
  {fields : List (Option String × Datum)} {after others : List Char}

theorem afterWord?_append (word : String) (rest : List Char) :
    afterWord? word (word.toList ++ rest) = some rest := by
  have hword : word.toList.isPrefixOf (word.toList ++ rest) = true := by
    rw [List.isPrefixOf_iff_prefix]
    exact List.prefix_append _ _
  rw [afterWord?, hword, if_pos rfl, ← String.length_toList, List.drop_left]

theorem value?_of_isDigit (h : c.isDigit = true) (fuel : Nat) :
    value? (fuel + 1) (c :: rest) = unsigned? (c :: rest) := by
  have hne (d : Char) (hd : d.isDigit = false) {after : List Char} :
      c :: rest = d :: after → False := fun hsame =>
    ne_of_isDigit h hd (List.cons.inj hsame).1
  rw [value?, number?]
  · exact fun after => hne '-' (by decide)
  all_goals exact fun after => hne _ (by decide)

theorem items?_closing (fuel : Nat) (rest : List Char) : items? fuel (']' :: rest) = none := by
  rcases fuel with _ | _ | fuel <;> rfl

/-- A list that holds something is read item by item. -/
theorem value?_of_items? (h : items? fuel (skip rest) = some (items, after)) :
    value? (fuel + 1) ('[' :: rest) = some (.list items, after) := by
  rw [value?]
  split
  · rename_i hclosing
    rw [hclosing, items?_closing] at h
    cases h
  · rw [h]
    rfl

theorem entries?_closing (fuel : Nat) (rest : List Char) :
    entries? fuel ('\x7d' :: rest) = none := by
  cases fuel <;> rfl

/-- A record that holds something is read field by field. -/
theorem value?_of_entries? (h : entries? fuel (skip rest) = some (fields, after)) :
    value? (fuel + 1) ('\x7b' :: rest) = some (.record fields, after) := by
  rw [value?]
  split
  · rename_i hclosing
    rw [hclosing, entries?_closing] at h
    cases h
  · rw [h]
    rfl

theorem items?_last
    (hvalue : value? fuel chars = some (item, after)) (hending : skip after = ']' :: rest) :
    items? (fuel + 1) chars = some ([item], rest) := by
  simp [items?, hvalue, hending]

theorem items?_cons
    (hvalue : value? fuel chars = some (item, after)) (hcomma : skip after = ',' :: others)
    (hothers : items? fuel (skip others) = some (items, rest)) :
    items? (fuel + 1) chars = some (item :: items, rest) := by
  simp [items?, hvalue, hcomma, hothers]

/-- How a field starts, before its value. -/
def opening (key : String) (chars : List Char) : List Char :=
  '"' :: (key.toList.flatMap quoteChar ++ '"' :: ':' :: ' ' :: chars)

theorem opening_append (key : String) (chars rest : List Char) :
    opening key chars ++ rest = opening key (chars ++ rest) := by
  simp [opening]

theorem length_le_opening (key : String) (chars : List Char) :
    chars.length ≤ (opening key chars).length := by
  simp [opening]
  omega

theorem toList_line (key text : String) :
    (quote key ++ ": " ++ text).toList = opening key text.toList := by
  simp [opening, quote]

theorem skip_opening (depth : Nat) (key : String) (chars rest : List Char) :
    skip ((indentation depth).toList ++ (opening key chars ++ rest)) =
      opening key chars ++ rest :=
  skip_indentation (by decide) depth

theorem entries?_last
    (hvalue : value? fuel (skip chars) = some (value, after))
    (hending : skip after = '\x7d' :: rest) :
    entries? (fuel + 1) (opening key chars) = some ([(some key, value)], rest) := by
  simp [entries?, opening, quoted?_quote, skip_colon, skip_space, hvalue, hending]

theorem entries?_cons
    (hvalue : value? fuel (skip chars) = some (value, after)) (hcomma : skip after = ',' :: others)
    (hothers : entries? fuel (skip others) = some (fields, rest)) :
    entries? (fuel + 1) (opening key chars) = some ((some key, value) :: fields, rest) := by
  simp [entries?, opening, quoted?_quote, skip_colon, skip_space, hvalue, hcomma, hothers]

end Steps

/-! ### Data -/

-- The induction is on the datum; the fuel only has to last for the text that is written for it, and
-- the brackets or the quotes around a part pay for the calls that lead to it.
mutual

/-- A datum is read from what is written for it. -/
theorem value?_prettyAt (datum : Datum) (depth fuel : Nat) {rest : List Char}
    (hplain : datum.IsPlain) (hrest : Stops rest)
    (hfuel : 2 * (prettyAt depth datum).toList.length ≤ fuel) :
    value? fuel ((prettyAt depth datum).toList ++ rest) = some (datum, rest) := by
  have hpos : 1 ≤ fuel := by
    have hlength := length_prettyAt_pos depth datum
    omega
  obtain ⟨fuel, rfl⟩ := Nat.exists_eq_add_of_le' hpos
  cases datum with
  | null =>
    rw [prettyAt]
    exact congrArg (Option.map (Datum.null, ·)) (afterWord?_append "null" rest)
  | flag value =>
    rw [prettyAt]
    cases value with
    | false => exact congrArg (Option.map (Datum.flag false, ·)) (afterWord?_append "false" rest)
    | true => exact congrArg (Option.map (Datum.flag true, ·)) (afterWord?_append "true" rest)
  | natural value =>
    obtain ⟨c, more, hdigits, hc⟩ := exists_toDigits_eq value
    have hnumber := unsigned?_toDigits value hrest
    have hvalue : (toString value).toList = Nat.toDigits 10 value := Nat.toList_repr
    rw [prettyAt, hvalue, hdigits, List.cons_append, value?_of_isDigit hc]
    rwa [hdigits, List.cons_append] at hnumber
  | number => exact hplain.elim
  | text value =>
    have hvalue : (prettyAt depth (.text value)).toList ++ rest =
        '"' :: (value.toList.flatMap quoteChar ++ '"' :: rest) := by
      simp [prettyAt, quote]
    rw [hvalue, value?, quoted?_quote]
    rfl
  | garbled => exact hplain.elim
  | list items =>
    cases items with
    | nil =>
      have hnone : (prettyAt depth (.list [])).toList = "[]".toList := by
        simp [prettyAt, prettyItems, between]
      rw [hnone]
      rfl
    | cons item items =>
      have hne : prettyItems (depth + 1) (item :: items) ≠ [] := by simp [prettyItems]
      rw [prettyAt, between_eq depth hne] at hfuel ⊢
      simp only [List.length_append, List.length_cons] at hfuel
      have hitems := items?_prettyItems (item :: items) (depth + 1) fuel (List.cons_ne_nil _ _)
        hplain (skip_closing (by decide) depth rest) (stops_newline _) (by omega)
      rw [← skip_newline] at hitems
      simpa using value?_of_items? hitems
  | record fields =>
    cases fields with
    | nil =>
      have hnone : (prettyAt depth (.record [])).toList = "\x7b\x7d".toList := by
        simp [prettyAt, prettyFields, between]
      rw [hnone]
      rfl
    | cons field fields =>
      have hne : prettyFields (depth + 1) (field :: fields) ≠ [] := by simp [prettyFields]
      rw [prettyAt, between_eq depth hne] at hfuel ⊢
      simp only [List.length_append, List.length_cons] at hfuel
      have hfields := entries?_prettyFields (field :: fields) (depth + 1) fuel
        (List.cons_ne_nil _ _) hplain (skip_closing (by decide) depth rest) (stops_newline _)
        (by omega)
      rw [← skip_newline] at hfields
      simpa using value?_of_entries? hfields

/-- The items of a list are read from their lines. -/
theorem items?_prettyItems (items : List Datum) (depth fuel : Nat) {rest ending : List Char}
    (hne : items ≠ []) (hplain : Datum.ArePlain items)
    (hending : skip ending = ']' :: rest) (hstops : Stops ending)
    (hfuel : 2 * (commaLines depth (prettyItems depth items)).length < fuel) :
    items? fuel (skip (commaLines depth (prettyItems depth items) ++ ending)) =
      some (items, rest) := by
  obtain ⟨fuel, rfl⟩ := Nat.exists_eq_add_of_le' (show 1 ≤ fuel by omega)
  match items with
  | [] => exact absurd rfl hne
  | [item] =>
    rw [prettyItems, prettyItems, commaLines_singleton] at hfuel ⊢
    rw [List.length_append] at hfuel
    rw [List.append_assoc, skip_line]
    exact items?_last (value?_prettyAt item depth fuel hplain.1 hstops (by omega)) hending
  | item :: next :: others =>
    rw [prettyItems, prettyItems, commaLines_cons, ← prettyItems] at hfuel ⊢
    simp only [List.length_append, List.length_cons] at hfuel
    have hothers := items?_prettyItems (next :: others) depth fuel (List.cons_ne_nil _ _)
      hplain.2 hending hstops (by omega)
    rw [← skip_newline] at hothers
    rw [List.append_assoc, List.append_assoc, skip_line]
    exact items?_cons (value?_prettyAt item depth fuel hplain.1 (stops_comma _) (by omega))
      (skip_cons (by decide)) hothers

/-- The fields of a record are read from their lines. -/
theorem entries?_prettyFields (fields : List (Option String × Datum)) (depth fuel : Nat)
    {rest ending : List Char} (hne : fields ≠ []) (hplain : Datum.HavePlain fields)
    (hending : skip ending = '\x7d' :: rest) (hstops : Stops ending)
    (hfuel : 2 * (commaLines depth (prettyFields depth fields)).length < fuel) :
    entries? fuel (skip (commaLines depth (prettyFields depth fields) ++ ending)) =
      some (fields, rest) := by
  obtain ⟨fuel, rfl⟩ := Nat.exists_eq_add_of_le' (show 1 ≤ fuel by omega)
  match fields with
  | [] => exact absurd rfl hne
  | [(none, _)] | (none, _) :: _ :: _ => exact absurd hplain.1 Bool.false_ne_true
  | [(some key, value)] =>
    rw [prettyFields, prettyFields, commaLines_singleton, Option.getD_some,
      toList_line] at hfuel ⊢
    rw [List.length_append] at hfuel
    have hlength := length_le_opening key (prettyAt depth value).toList
    rw [List.append_assoc, skip_opening, opening_append]
    refine entries?_last ?_ hending
    rw [skip_prettyAt]
    exact value?_prettyAt value depth fuel hplain.2.1 hstops (by omega)
  | (some key, value) :: (other, next) :: others =>
    have hlength := length_le_opening key (prettyAt depth value).toList
    rw [prettyFields, prettyFields, commaLines_cons, ← prettyFields, Option.getD_some,
      toList_line] at hfuel ⊢
    simp only [List.length_append, List.length_cons] at hfuel
    have hothers := entries?_prettyFields ((other, next) :: others) depth fuel
      (List.cons_ne_nil _ _) hplain.2.2 hending hstops (by omega)
    rw [← skip_newline] at hothers
    rw [List.append_assoc, List.append_assoc, skip_opening, opening_append]
    refine entries?_cons ?_ (skip_cons (by decide)) hothers
    rw [skip_prettyAt]
    exact value?_prettyAt value depth fuel hplain.2.1 (stops_comma _) (by omega)

end

/-- What is written for a datum is read as that datum. -/
theorem parse?_pretty {datum : Datum} (hplain : datum.IsPlain) :
    parse? (pretty datum) = some datum := by
  have hskip := skip_prettyAt 0 datum []
  have hends : Stops [] := by simp [Stops]
  have hvalue := value?_prettyAt datum 0 (2 * (prettyAt 0 datum).toList.length + 2) hplain hends
    (Nat.le_add_right _ 2)
  rw [List.append_nil] at hskip hvalue
  simp only [parse?, pretty, hskip, hvalue]
  rfl

end Json

end DocStubs
