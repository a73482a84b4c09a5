import Chip8.Json.Reader
import Chip8.Json.Writer
import Chip8.Proofs.Numerals

/-!
# Values are read back as they were written

The reader takes what the writer makes of a value, in any layout that sets the parts apart by
blanks, and answers that value (`parse_render`). Strings are lists of any code units, halves of
pairs included, and whole numbers are of any size; the value must not hold doubles, no object may
have a key twice, and it must be within the limits of the reader (`Readable`).

The reader goes from left to right and answers the rest of the text with what it read. So that a
value is read back has to be said for any text that may follow it (`Reads`): a string ends with its
quote and an array with its bracket, but a whole number ends only where something follows that does
not go on with it (`Ends`). The recursion of the reader is bounded by fuel, and for each unit there
is half a character of the text. From there on the parts come one by one: the escapes of a string
(`stringBody_escape`), the items of an array (`items_write`) and the members of an object
(`members_write`), of which each one is added at the end because its key is new.
-/

namespace Chip8.Json

/-! ### Strings -/

/-- A number that is no code point makes no character but zero. -/
theorem eq_toNat_of_ofNat {n : Nat} {c : Char} (h : Char.ofNat n = c) (nonzero : c ≠ '\x00') :
    n = c.toNat := by
  by_cases valid : n.isValidChar
  · rw [Char.ofNat, dif_pos valid] at h
    rw [← h]
    rfl
  · rw [Char.ofNat, dif_neg valid] at h
    exact absurd h.symm nonzero

/-- The four digits of a code unit are read back. -/
theorem unitOf?_hexDigits (u : CodeUnit) :
    ∃ a b c d, hexDigits u = [a, b, c, d] ∧ unitOf? a b c d = some u := by
  have digit (shift : Nat) : Text.hexValue? (Nat.digitChar (u.toNat >>> shift % 16)) =
      some (u.toNat >>> shift % 16) :=
    (Text.hexValue?_digitChar (Nat.mod_lt _ (by decide))).2
  have small : u.toNat < 0x10000 := u.isLt
  have number : Text.valueOf 16 [u.toNat >>> 12 % 16, u.toNat >>> 8 % 16, u.toNat >>> 4 % 16,
      u.toNat >>> 0 % 16] = u.toNat := by
    simp only [Text.valueOf, List.foldl_cons, List.foldl_nil, Nat.shiftRight_eq_div_pow]
    omega
  refine ⟨_, _, _, _, rfl, ?_⟩
  rw [unitOf?]
  simp only [List.mapM_cons, List.mapM_nil, digit]
  show some (BitVec.ofNat 16 (Text.valueOf 16 [_, _, _, _])) = _
  rw [number, BitVec.ofNat_toNat, BitVec.setWidth_eq]

theorem stringBody_unit {a b c d : Char} {u : CodeUnit} (h : unitOf? a b c d = some u)
    (cs : List Char) :
    stringBody ('\\' :: 'u' :: a :: b :: c :: d :: cs) =
      (stringBody cs).map fun (us, rest) ↦ (u :: us, rest) := by
  rw [stringBody, h]
  rcases stringBody cs with - | ⟨us, rest⟩
  · rfl
  · rfl

theorem stringBody_short {c : Char} {u : CodeUnit} (h : shortEscape? c = some u) (cs : List Char) :
    stringBody ('\\' :: c :: cs) = (stringBody cs).map fun (us, rest) ↦ (u :: us, rest) := by
  have other : c ≠ 'u' := by
    rintro rfl
    cases h
  rw [stringBody, h]
  · rcases stringBody cs with - | ⟨us, rest⟩
    · rfl
    · rfl
  · exact fun _ _ _ _ _ same ↦ absurd same other

theorem stringBody_plain {c : Char} (printable : 32 ≤ c.toNat ∧ c.toNat < 127) (quote : c ≠ '"')
    (backslash : c ≠ '\\') (cs : List Char) :
    stringBody (c :: cs) =
      (stringBody cs).map fun (us, rest) ↦ (BitVec.ofNat 16 c.toNat :: us, rest) := by
  have unit : CodeUnit.ofChar c = [BitVec.ofNat 16 c.toNat] := by
    rw [CodeUnit.ofChar, if_pos (by omega)]
  have accepted : ¬(c.toNat < 32 ∨ c = '\\') := by
    rintro (control | same)
    · omega
    · exact backslash same
  rw [stringBody, if_neg accepted, unit]
  · rcases stringBody cs with - | ⟨us, rest⟩
    · rfl
    · rfl
  · exact quote
  · exact fun _ _ _ _ _ same ↦ absurd same backslash
  · exact fun _ _ same ↦ absurd same backslash

/-- **A code unit is read back from its escape.** -/
theorem stringBody_escape (u : CodeUnit) (cs : List Char) :
    stringBody (escape u ++ cs) = (stringBody cs).map fun (us, rest) ↦ (u :: us, rest) := by
  have short {n : Nat} {c : Char} (same : u.toNat = n) (h : shortEscape? c = some n) :
      stringBody ('\\' :: c :: cs) = (stringBody cs).map fun (us, rest) ↦ (u :: us, rest) := by
    have unit : (n : CodeUnit) = u := by
      rw [← same]
      exact BitVec.ofNat_toNat ..
    rw [← unit]
    exact stringBody_short h cs
  rw [escape]
  split
  · next h => exact short (eq_toNat_of_ofNat h (by decide)) rfl
  split
  · next h => exact short (eq_toNat_of_ofNat h (by decide)) rfl
  split
  · next h => exact short (eq_toNat_of_ofNat h (by decide)) rfl
  split
  · next h => exact short (eq_toNat_of_ofNat h (by decide)) rfl
  split
  · next h => exact short (eq_toNat_of_ofNat h (by decide)) rfl
  split
  · next h => exact short h rfl
  split
  · next h => exact short h rfl
  split
  · next quote backslash _ _ _ _ _ printable =>
    have char : (Char.ofNat u.toNat).toNat = u.toNat := by
      rw [Char.ofNat, dif_pos (.inl (by omega))]
      rfl
    have read := stringBody_plain (c := Char.ofNat u.toNat) (by rwa [char]) quote backslash cs
    rwa [char, BitVec.ofNat_toNat, BitVec.setWidth_eq] at read
  · obtain ⟨a, b, c, d, digits, unit⟩ := unitOf?_hexDigits u
    rw [digits]
    exact stringBody_unit unit cs

/-- **A string is read back from its text in quotes**, whatever its code units are. -/
theorem stringBody_flatMap_escape (us : List CodeUnit) (rest : List Char) :
    stringBody (us.flatMap escape ++ '"' :: rest) = some (us, rest) := by
  induction us with
  | nil => rw [List.flatMap_nil, List.nil_append, stringBody]
  | cons u us ih =>
    rw [List.flatMap_cons, List.append_assoc, stringBody_escape, ih]
    rfl

/-! ### Whole numbers -/

/-- What may follow a whole number: no digit, and no beginning of a fraction or of an exponent. -/
def Ends (rest : List Char) : Prop :=
  ∀ c ∈ rest.head?, c.isDigit = false ∧ c ≠ '.' ∧ c ≠ 'e' ∧ c ≠ 'E'

theorem Ends.nil : Ends [] := nofun

theorem takeDigits_append {ds rest : List Char} (digits : ∀ c ∈ ds, c.isDigit = true)
    (ends : Ends rest) : takeDigits (ds ++ rest) = (ds, rest) := by
  have stop : rest.takeWhile Char.isDigit = [] ∧ rest.dropWhile Char.isDigit = rest := by
    rcases rest with - | ⟨c, cs⟩
    · exact ⟨rfl, rfl⟩
    · have other : ¬c.isDigit = true := by
        rw [(ends c rfl).1]
        decide
      exact ⟨List.takeWhile_cons_of_neg other, List.dropWhile_cons_of_neg other⟩
  rw [takeDigits, List.takeWhile_append_of_pos digits, List.dropWhile_append_of_pos digits, stop.1,
    stop.2, List.append_nil]

theorem fractionPart_of_ends {rest : List Char} (ends : Ends rest) : fractionPart rest = none := by
  rw [fractionPart]
  rintro cs rfl
  exact (ends '.' rfl).2.1 rfl

theorem exponentPart_of_ends {rest : List Char} (ends : Ends rest) : exponentPart rest = none := by
  rcases rest with - | ⟨c, cs⟩
  · rfl
  · obtain ⟨-, -, lower, upper⟩ := ends c rfl
    have other : ¬(c = 'e' ∨ c = 'E') := not_or.2 ⟨lower, upper⟩
    exact if_neg other

/-- Digits of base ten are read as digits, each with its value. -/
theorem isDigit_digitChar {d : Nat} (h : d < 10) :
    (Text.digitChar d).isDigit = true ∧ (Text.digitChar d).toNat - 48 = d := by
  have all : ∀ d : Fin 10,
      (Text.digitChar d).isDigit = true ∧ (Text.digitChar d).toNat - 48 = d.val := by decide
  exact all ⟨d, h⟩

theorem isDigit_of_mem_digits {n : Nat} {c : Char} (h : c ∈ Text.digits 10 n) :
    c.isDigit = true := by
  obtain ⟨d, hd, rfl⟩ := List.mem_map.1 h
  exact (isDigit_digitChar (Text.lt_of_mem_digitValues (by decide) hd)).1

theorem decimalValue_digits (n : Nat) : decimalValue (Text.digits 10 n) = n := by
  have values : (Text.digits 10 n).map (fun c ↦ c.toNat - 48) = Text.digitValues 10 n := by
    rw [Text.digits, List.map_map]
    refine (List.map_congr_left fun d hd ↦ ?_).trans (List.map_id _)
    exact (isDigit_digitChar (Text.lt_of_mem_digitValues (by decide) hd)).2
  rw [decimalValue, values, Text.valueOf_digitValues]

/-- No numeral begins with a zero but the one of zero. -/
theorem head?_digitValues_ne {base n : Nat} (positive : 0 < n) :
    (Text.digitValues base n).head? ≠ some 0 := by
  fun_induction Text.digitValues base n with
  | case1 n h =>
    intro zero
    exact Nat.ne_of_gt positive (Option.some.inj zero)
  | case2 n h ih =>
    have quotient : 0 < n / base := Nat.div_pos (by omega) (by omega)
    obtain ⟨d, ds, digits⟩ := List.exists_cons_of_ne_nil (Text.digitValues_ne_nil base (n / base))
    rw [digits] at ih ⊢
    exact ih quotient

theorem wholePart_digits (n : Nat) {rest : List Char} (ends : Ends rest) :
    wholePart (Text.digits 10 n ++ rest) = some (Text.digits 10 n, rest) := by
  rcases n.eq_zero_or_pos with rfl | positive
  · rw [Text.digits, Text.digitValues_of_lt (by decide)]
    rfl
  · have taken := takeDigits_append (fun _ ↦ isDigit_of_mem_digits (n := n)) ends
    have first : (Text.digits 10 n).head? ≠ some '0' := by
      intro zero
      rw [Text.digits, List.head?_map, Option.map_eq_some_iff] at zero
      obtain ⟨d, head, char⟩ := zero
      have digit := (isDigit_digitChar (Text.lt_of_mem_digitValues (by decide)
        (List.mem_of_mem_head? head))).2
      rw [char] at digit
      rw [← digit] at head
      exact head?_digitValues_ne positive head
    obtain ⟨c, cs, digits⟩ := List.exists_cons_of_ne_nil (Text.digits_ne_nil 10 n)
    rw [digits] at taken first ⊢
    rw [List.cons_append, wholePart, ← List.cons_append, taken]
    · rfl
    · intro rest' same
      cases same
      exact first rfl

/-- The text of a whole number: its digits, with the sign in front. -/
theorem numberText_int (n : Int) :
    numberText (.int n) =
      if n < 0 then '-' :: Text.digits 10 n.natAbs else Text.digits 10 n.natAbs := by
  have unpadded (width : Nat) (zero : width = 0) (cs : List Char) :
      Text.padLeft width '0' cs = cs := by
    rw [zero, Text.padLeft, Nat.zero_sub]
    rfl
  rw [numberText, Text.decimal, String.toList_ofList, Text.signed, unpadded 0 rfl]

/-- **A whole number is read back from its digits** and its sign, if there are not too many. -/
theorem unsigned_digits {limits : Limits} {n : Nat} (negative : Bool)
    (short : Limits.allows limits.digits (Text.digits 10 n).length = true) {rest : List Char}
    (ends : Ends rest) :
    unsigned limits negative (Text.digits 10 n ++ rest) =
      .ok (int (if negative then -n else n), rest) := by
  simp only [unsigned, wholePart_digits n ends, required, bind, Except.bind,
    fractionPart_of_ends ends, Option.elim_none, exponentPart_of_ends ends, Option.isNone_none,
    Bool.and_self, if_true, decimalValue_digits, short]
  rfl

/-! ### Blanks -/

/-- The blanks between the parts of a text. -/
def Blank (c : Char) : Prop := c = ' ' ∨ c = '\t' ∨ c = '\n' ∨ c = '\r'

instance (c : Char) : Decidable (Blank c) := inferInstanceAs (Decidable (_ ∨ _))

theorem skipBlanks_append {gap : List Char} (blank : ∀ c ∈ gap, Blank c) (cs : List Char) :
    skipBlanks (gap ++ cs) = skipBlanks cs := by
  refine List.dropWhile_append_of_pos fun c hc ↦ ?_
  simpa [Blank, or_assoc] using blank c hc

theorem skipBlanks_cons {c : Char} (solid : ¬Blank c) (cs : List Char) :
    skipBlanks (c :: cs) = c :: cs := by
  refine List.dropWhile_cons_of_neg ?_
  simpa [Blank, or_assoc] using solid

theorem skipBlanks_gap {gap : List Char} (blank : ∀ c ∈ gap, Blank c) {c : Char} (solid : ¬Blank c)
    (cs : List Char) : skipBlanks (gap ++ c :: cs) = c :: cs := by
  rw [skipBlanks_append blank, skipBlanks_cons solid]

/-- Where a value is followed by blanks and a mark, a number in front of them ends. -/
theorem Ends.of_gap {gap : List Char} (blank : ∀ c ∈ gap, Blank c) {c : Char}
    (mark : c = ',' ∨ c = ']' ∨ c = '\x7d') (cs : List Char) : Ends (gap ++ c :: cs) := by
  intro first head
  rcases gap with - | ⟨g, gap⟩
  · obtain rfl : c = first := Option.some.inj head
    rcases mark with rfl | rfl | rfl
    all_goals exact ⟨rfl, by decide, by decide, by decide⟩
  · obtain rfl : g = first := Option.some.inj head
    rcases blank g List.mem_cons_self with rfl | rfl | rfl | rfl
    all_goals exact ⟨rfl, by decide, by decide, by decide⟩

theorem Ends.of_mark {c : Char} (mark : c = ',' ∨ c = ']' ∨ c = '\x7d') (cs : List Char) :
    Ends (c :: cs) :=
  Ends.of_gap (show ∀ d ∈ [], Blank d from nofun) mark cs

/-- A layout that sets parts apart by blanks. -/
structure Layout.Spaced (layout : Layout) : Prop where
  colon : ∃ gap, layout.colon.toList = ':' :: gap ∧ ∀ c ∈ gap, Blank c

theorem Layout.spaced_indented : Layout.indented.Spaced :=
  ⟨[' '], rfl, fun _ h ↦ .inl (List.mem_singleton.1 h)⟩

theorem Layout.blank_of_mem_break {layout : Layout} {level : Nat} {c : Char}
    (h : c ∈ layout.break level) : Blank c := by
  obtain ⟨- | width, colon⟩ := layout
  · cases h
  · rcases List.mem_cons.1 h with rfl | h
    · exact .inr (.inr (.inl rfl))
    · exact .inl (List.eq_of_mem_replicate h)

/-! ### Values -/

/-- A value that is read under some limits: it holds no doubles, its whole numbers have no more
digits and its parts are no deeper than the limits say, and no key stands twice in an object. -/
inductive Readable : Limits → Json → Prop
  | null {limits : Limits} : Readable limits .null
  | bool {limits : Limits} (b : Bool) : Readable limits (.bool b)
  | int {limits : Limits} (n : Int)
      (short : Limits.allows limits.digits (Text.digits 10 n.natAbs).length = true) :
      Readable limits (.int n)
  | string {limits : Limits} (units : List CodeUnit) : Readable limits (.string units)
  | array {limits inner : Limits} {items : List Json} (enters : enter limits = .ok inner)
      (readable : ∀ v ∈ items, Readable inner v) : Readable limits (.array items)
  | object {limits inner : Limits} {members : List (List CodeUnit × Json)}
      (enters : enter limits = .ok inner) (keys : (members.map Prod.fst).Nodup)
      (readable : ∀ m ∈ members, Readable inner m.2) : Readable limits (.object members)

/-- A value is read back from its text, wherever that stands, with fuel for its length. -/
def Reads (layout : Layout) (limits : Limits) (v : Json) : Prop :=
  ∀ level fuel rest, 2 * (write layout level v).length ≤ fuel → Ends rest →
    value fuel limits (write layout level v ++ rest) = .ok (v, rest)

variable {layout : Layout} {limits inner : Limits} {level fuel : Nat} {rest gap : List Char}

/-- No text of a value begins like a blank or like the end of an array. -/
theorem exists_cons_write (layout : Layout) (level : Nat) {v : Json}
    (readable : Readable limits v) :
    ∃ c cs, write layout level v = c :: cs ∧ ¬Blank c ∧ c ≠ ']' := by
  have digit {c : Char} (h : c.isDigit = true) : ¬Blank c ∧ c ≠ ']' := by
    constructor
    · rintro (rfl | rfl | rfl | rfl)
      all_goals exact absurd h (by decide)
    · rintro rfl
      exact absurd h (by decide)
  cases readable with
  | null => exact ⟨_, _, by rw [write], by decide, by decide⟩
  | bool b =>
    rcases b with - | -
    · exact ⟨_, _, by rw [write], by decide, by decide⟩
    · exact ⟨_, _, by rw [write], by decide, by decide⟩
  | int n short =>
    rw [Json.int, write, numberText_int]
    split
    · exact ⟨_, _, rfl, by decide, by decide⟩
    · obtain ⟨c, cs, digits⟩ := List.exists_cons_of_ne_nil (Text.digits_ne_nil 10 n.natAbs)
      have first : c.isDigit = true :=
        isDigit_of_mem_digits (n := n.natAbs) (digits ▸ List.mem_cons_self)
      exact ⟨c, cs, digits, digit first⟩
  | string units => exact ⟨_, _, by rw [write, quote], by decide, by decide⟩
  | @array _ inner items enters readable =>
    rcases items with - | ⟨v, vs⟩
    · exact ⟨_, _, by rw [write], by decide, by decide⟩
    · exact ⟨_, _, by rw [write], by decide, by decide⟩
  | @object _ inner members enters keys readable =>
    rcases members with - | ⟨⟨key, v⟩, ms⟩
    · exact ⟨_, _, by rw [write], by decide, by decide⟩
    · exact ⟨_, _, by rw [write], by decide, by decide⟩

/-- An array that is not empty is read item by item. -/
theorem value_array (enters : enter limits = .ok inner) {cs : List Char} {c : Char}
    (skip : skipBlanks rest = c :: cs) (goes : c ≠ ']') :
    value (fuel + 1) limits ('[' :: rest) =
      (items fuel inner (c :: cs)).map fun (vs, rest) ↦ (.array vs, rest) := by
  have entered : enter limits = pure inner := enters
  rw [value, entered, pure_bind, skip]
  split
  · next same => exact absurd (List.cons.inj same).1 goes
  · rfl

/-- An object that is not empty is read member by member. -/
theorem value_object (enters : enter limits = .ok inner) {cs : List Char} {c : Char}
    (skip : skipBlanks rest = c :: cs) (goes : c ≠ '\x7d') :
    value (fuel + 1) limits ('\x7b' :: rest) =
      (members fuel inner [] (c :: cs)).map fun (ms, rest) ↦ (.object ms, rest) := by
  have entered : enter limits = pure inner := enters
  rw [value, entered, pure_bind, skip]
  split
  · next same => exact absurd (List.cons.inj same).1 goes
  · rfl

/-- A value that is no string, array or object. -/
theorem value_scalar {c : Char} (string : c ≠ '"') (array : c ≠ '[') (object : c ≠ '\x7b')
    (cs : List Char) : value (fuel + 1) limits (c :: cs) = scalar limits (c :: cs) := by
  rw [value]
  · exact fun _ same ↦ string (List.cons.inj same).1
  · exact fun _ same ↦ array (List.cons.inj same).1
  · exact fun _ same ↦ object (List.cons.inj same).1

theorem ne_of_isDigit {c d : Char} (digit : c.isDigit = true) (other : d.isDigit = false) :
    c ≠ d := by
  rintro rfl
  rw [digit] at other
  cases other

/-- A text that begins with a digit is read as a number. -/
theorem scalar_digit {c : Char} (digit : c.isDigit = true) (cs : List Char) :
    scalar limits (c :: cs) = unsigned limits false (c :: cs) := by
  rw [scalar]
  all_goals exact fun _ same ↦ ne_of_isDigit digit rfl (List.cons.inj same).1

theorem scalar_minus {c : Char} (digit : c.isDigit = true) (cs : List Char) :
    scalar limits ('-' :: c :: cs) = unsigned limits true (c :: cs) := by
  rw [scalar]
  exact fun _ same ↦ ne_of_isDigit digit rfl (List.cons.inj same).1

/-- **A whole number is read back from its text.** -/
theorem value_int {n : Int}
    (short : Limits.allows limits.digits (Text.digits 10 n.natAbs).length = true)
    (ends : Ends rest) :
    value (fuel + 1) limits (numberText (.int n) ++ rest) = .ok (.int n, rest) := by
  obtain ⟨c, cs, digits⟩ := List.exists_cons_of_ne_nil (Text.digits_ne_nil 10 n.natAbs)
  have first : c.isDigit = true :=
    isDigit_of_mem_digits (n := n.natAbs) (digits ▸ List.mem_cons_self)
  rw [numberText_int]
  by_cases negative : n < 0
  · have read := unsigned_digits true short ends
    have sign : (if true then -(n.natAbs : Int) else n.natAbs) = n := by
      rw [if_pos rfl]
      omega
    rw [sign, digits, List.cons_append] at read
    rw [if_pos negative, List.cons_append, value_scalar (by decide) (by decide) (by decide), digits,
      List.cons_append, scalar_minus first, read]
  · have read := unsigned_digits false short ends
    have sign : (if false then -(n.natAbs : Int) else n.natAbs) = n := by
      rw [if_neg nofun]
      omega
    rw [sign, digits, List.cons_append] at read
    rw [if_neg negative, digits, List.cons_append,
      value_scalar (ne_of_isDigit first rfl) (ne_of_isDigit first rfl) (ne_of_isDigit first rfl),
      scalar_digit first, read]

/-- A member begins with its key and a colon. -/
theorem memberKey_quote (spaced : layout.Spaced) (key : List CodeUnit) {c : Char} (solid : ¬Blank c)
    (cs : List Char) :
    memberKey (quote key ++ (layout.colon.toList ++ c :: cs)) = some (key, c :: cs) := by
  obtain ⟨gap, colon, blank⟩ := spaced.colon
  have key' : quote key ++ (layout.colon.toList ++ c :: cs) =
      '"' :: (key.flatMap escape ++ '"' :: (':' :: (gap ++ c :: cs))) := by
    rw [quote, colon]
    simp
  rw [key', memberKey, stringBody_flatMap_escape]
  simp only [Option.bind_eq_bind, Option.bind_some]
  rw [skipBlanks_cons (by decide)]
  exact congrArg (fun rest ↦ some (key, rest)) (skipBlanks_gap blank solid cs)

/-- A member begins with its key and goes on with its value. -/
theorem memberKey_write (spaced : layout.Spaced) (level : Nat) (key : List CodeUnit) {v : Json}
    (readable : Readable limits v) (cs : List Char) :
    memberKey (quote key ++ (layout.colon.toList ++ (write layout level v ++ cs))) =
      some (key, write layout level v ++ cs) := by
  obtain ⟨c, text, written, solid, -⟩ := exists_cons_write layout level readable
  rw [written, List.cons_append]
  exact memberKey_quote spaced key solid (text ++ cs)

theorem notMem_of_nodup {key : List CodeUnit} {v : Json} {ms ns : List (List CodeUnit × Json)}
    (keys : ((ms ++ (key, v) :: ns).map Prod.fst).Nodup) : key ∉ ms.map Prod.fst := by
  rw [List.map_append, List.map_cons] at keys
  intro old
  exact (List.nodup_append.1 keys).2.2 key old key List.mem_cons_self rfl

/-- A key that is new is added at the end. -/
theorem insert_of_notMem {key : List CodeUnit} (v : Json) {members : List (List CodeUnit × Json)}
    (fresh : key ∉ members.map Prod.fst) : insert key v members = members ++ [(key, v)] := by
  induction members with
  | nil => rfl
  | cons m ms ih =>
    rw [List.map_cons, List.mem_cons, not_or] at fresh
    rw [insert, if_neg (Ne.symm fresh.1), ih fresh.2]
    rfl

/-- The blanks in front of a value are skipped. -/
theorem skipBlanks_break {v : Json} (readable : Readable inner v) (outer : Nat) (cs : List Char) :
    skipBlanks (layout.break outer ++ (write layout level v ++ cs)) =
      write layout level v ++ cs := by
  obtain ⟨c, text, written, solid, -⟩ := exists_cons_write layout level readable
  rw [written, List.cons_append, skipBlanks_gap (fun _ ↦ Layout.blank_of_mem_break) solid]

/-- The blanks in front of a member are skipped. -/
theorem skipBlanks_break_quote (level : Nat) (key : List CodeUnit) (cs : List Char) :
    skipBlanks (layout.break level ++ (quote key ++ cs)) = quote key ++ cs := by
  rw [quote, List.cons_append, skipBlanks_gap (fun _ ↦ Layout.blank_of_mem_break) (by decide)]

section Parts

variable {cs tail more : List Char} {v : Json} {key : List CodeUnit}
  {sofar : List (List CodeUnit × Json)}

theorem items_last (read : value fuel limits cs = .ok (v, tail))
    (skip : skipBlanks tail = ']' :: rest) :
    items (fuel + 1) limits cs = .ok ([v], rest) := by
  rw [items, read]
  simp only [bind, Except.bind, skip]
  rfl

theorem items_more (read : value fuel limits cs = .ok (v, tail))
    (skip : skipBlanks tail = ',' :: more) :
    items (fuel + 1) limits cs =
      (items fuel limits (skipBlanks more)).map fun (vs, rest) ↦ (v :: vs, rest) := by
  rw [items, read]
  simp only [bind, Except.bind, skip]
  rfl

theorem members_last (begins : memberKey cs = some (key, more))
    (read : value fuel limits more = .ok (v, tail)) (skip : skipBlanks tail = '\x7d' :: rest) :
    members (fuel + 1) limits sofar cs = .ok (insert key v sofar, rest) := by
  rw [members, begins]
  simp only [required, bind, Except.bind, read, skip]
  rfl

theorem members_more {next : List Char} (begins : memberKey cs = some (key, more))
    (read : value fuel limits more = .ok (v, tail)) (skip : skipBlanks tail = ',' :: next) :
    members (fuel + 1) limits sofar cs =
      members fuel limits (insert key v sofar) (skipBlanks next) := by
  rw [members, begins]
  simp only [required, bind, Except.bind, read, skip]

end Parts

/-- Items are read back one by one up to the bracket. -/
theorem items_write {v : Json} {vs : List Json} (readable : ∀ w ∈ v :: vs, Readable inner w)
    (reads : ∀ w ∈ v :: vs, Reads layout inner w) (blank : ∀ c ∈ gap, Blank c)
    (enough : 2 * (write layout level v ++ writeItems layout level vs).length < fuel) :
    items fuel inner
        (write layout level v ++ (writeItems layout level vs ++ (gap ++ ']' :: rest))) =
      .ok (v :: vs, rest) := by
  -- Every item takes one unit of fuel, and it has at least one character for it.
  induction vs generalizing v fuel with
  | nil =>
    obtain ⟨fuel, rfl⟩ : ∃ k, fuel = k + 1 := ⟨fuel - 1, by omega⟩
    rw [writeItems, List.append_nil] at enough
    rw [writeItems, List.nil_append]
    have read := reads v List.mem_cons_self level fuel (gap ++ ']' :: rest) (by omega)
      (.of_gap blank (.inr (.inl rfl)) rest)
    exact items_last read (skipBlanks_gap blank (by decide) rest)
  | cons w ws ih =>
    obtain ⟨fuel, rfl⟩ : ∃ k, fuel = k + 1 := ⟨fuel - 1, by omega⟩
    simp only [writeItems, List.length_append, List.length_cons] at enough
    obtain ⟨next, hnext⟩ : ∃ next, next = write layout level w ++
      (writeItems layout level ws ++ (gap ++ ']' :: rest)) := ⟨_, rfl⟩
    have split : writeItems layout level (w :: ws) ++ (gap ++ ']' :: rest) =
        ',' :: (layout.break level ++ next) := by
      simp only [hnext, writeItems, List.cons_append, List.append_assoc]
    have read := reads v List.mem_cons_self level fuel (',' :: (layout.break level ++ next))
      (by omega) (.of_mark (.inl rfl) _)
    have skip : skipBlanks (layout.break level ++ next) = next := by
      rw [hnext, skipBlanks_break (readable w (List.mem_cons_of_mem v List.mem_cons_self))]
    have later : items fuel inner next = .ok (w :: ws, rest) := by
      rw [hnext]
      refine ih (fun u hu ↦ readable u (List.mem_cons_of_mem v hu))
        (fun u hu ↦ reads u (List.mem_cons_of_mem v hu)) ?_
      rw [List.length_append]
      omega
    rw [split, items_more read (skipBlanks_cons (by decide) _), skip, later]
    rfl

/-- Members are read back one by one up to the brace, after those that were read before. -/
theorem members_write (spaced : layout.Spaced) {key : List CodeUnit} {v : Json}
    {sofar ms : List (List CodeUnit × Json)} (readable : ∀ m ∈ (key, v) :: ms, Readable inner m.2)
    (reads : ∀ m ∈ (key, v) :: ms, Reads layout inner m.2) (blank : ∀ c ∈ gap, Blank c)
    (keys : ((sofar ++ (key, v) :: ms).map Prod.fst).Nodup)
    (enough : 2 * (write layout level v ++ writeMembers layout level ms).length < fuel) :
    members fuel inner sofar (quote key ++ (layout.colon.toList ++ (write layout level v ++
        (writeMembers layout level ms ++ (gap ++ '\x7d' :: rest))))) =
      .ok (sofar ++ (key, v) :: ms, rest) := by
  induction ms generalizing key v sofar fuel with
  | nil =>
    obtain ⟨fuel, rfl⟩ : ∃ k, fuel = k + 1 := ⟨fuel - 1, by omega⟩
    rw [writeMembers, List.append_nil] at enough
    rw [writeMembers, List.nil_append]
    have begins := memberKey_write spaced level key (readable _ List.mem_cons_self)
      (gap ++ '\x7d' :: rest)
    have first : Reads layout inner v := reads (key, v) List.mem_cons_self
    have read := first level fuel (gap ++ '\x7d' :: rest) (by omega)
      (.of_gap blank (.inr (.inr rfl)) rest)
    rw [members_last begins read (skipBlanks_gap blank (by decide) rest),
      insert_of_notMem v (notMem_of_nodup keys)]
  | cons m ms ih =>
    obtain ⟨fuel, rfl⟩ : ∃ k, fuel = k + 1 := ⟨fuel - 1, by omega⟩
    obtain ⟨key', w⟩ := m
    simp only [writeMembers, List.length_append, List.length_cons] at enough
    obtain ⟨next, hnext⟩ : ∃ next, next = quote key' ++ (layout.colon.toList ++
      (write layout level w ++ (writeMembers layout level ms ++ (gap ++ '\x7d' :: rest)))) :=
        ⟨_, rfl⟩
    have split : writeMembers layout level ((key', w) :: ms) ++ (gap ++ '\x7d' :: rest) =
        ',' :: (layout.break level ++ next) := by
      simp only [hnext, writeMembers, List.cons_append, List.append_assoc]
    have begins := memberKey_write spaced level key (readable _ List.mem_cons_self)
      (',' :: (layout.break level ++ next))
    have first : Reads layout inner v := reads (key, v) List.mem_cons_self
    have read := first level fuel (',' :: (layout.break level ++ next)) (by omega)
      (.of_mark (.inl rfl) _)
    have skip : skipBlanks (layout.break level ++ next) = next := by
      rw [hnext, skipBlanks_break_quote]
    have later : members fuel inner (sofar ++ [(key, v)]) next =
        .ok (sofar ++ [(key, v)] ++ (key', w) :: ms, rest) := by
      rw [hnext]
      refine ih (fun u hu ↦ readable u (List.mem_cons_of_mem _ hu))
        (fun u hu ↦ reads u (List.mem_cons_of_mem _ hu)) (by rwa [List.append_assoc]) ?_
      rw [List.length_append]
      omega
    rw [split, members_more begins read (skipBlanks_cons (by decide) _), skip,
      insert_of_notMem v (notMem_of_nodup keys), later, List.append_assoc]
    rfl

/-- There is fuel for a value if there is enough for its text. -/
theorem exists_fuel {v : Json} (readable : Readable limits v)
    (enough : 2 * (write layout level v).length ≤ fuel) : ∃ k, fuel = k + 1 := by
  obtain ⟨c, cs, written, -⟩ := exists_cons_write layout level readable
  rw [written, List.length_cons] at enough
  exact ⟨fuel - 1, by omega⟩

/-- A value without parts needs one unit of fuel. -/
theorem Reads.of_succ {v : Json} (readable : Readable limits v)
    (read : ∀ level fuel rest, Ends rest →
      value (fuel + 1) limits (write layout level v ++ rest) = .ok (v, rest)) :
    Reads layout limits v := by
  intro level fuel rest enough ends
  obtain ⟨fuel, rfl⟩ := exists_fuel readable enough
  exact read level fuel rest ends

theorem reads_array {items : List Json} (enters : enter limits = .ok inner)
    (readable : ∀ v ∈ items, Readable inner v) (reads : ∀ v ∈ items, Reads layout inner v) :
    Reads layout limits (.array items) := by
  intro level fuel rest enough ends
  obtain ⟨fuel, rfl⟩ := exists_fuel (.array enters readable) enough
  rcases items with - | ⟨v, vs⟩
  · rw [write, List.cons_append, List.cons_append, List.nil_append, value, enters]
    simp only [bind, Except.bind, skipBlanks_cons (show ¬Blank ']' by decide)]
    rfl
  · simp only [write, List.length_append, List.length_cons] at enough
    obtain ⟨body, hbody⟩ : ∃ body, body = write layout (level + 1) v ++
      (writeItems layout (level + 1) vs ++ (layout.break level ++ ']' :: rest)) := ⟨_, rfl⟩
    have split : write layout level (.array (v :: vs)) ++ rest =
        '[' :: (layout.break (level + 1) ++ body) := by
      simp only [hbody, write, List.cons_append, List.append_assoc, List.nil_append]
    have skip : skipBlanks (layout.break (level + 1) ++ body) = body := by
      rw [hbody, skipBlanks_break (readable v List.mem_cons_self)]
    have read : Json.items fuel inner body = .ok (v :: vs, rest) := by
      rw [hbody]
      refine items_write readable reads (fun _ ↦ Layout.blank_of_mem_break) ?_
      rw [List.length_append]
      omega
    obtain ⟨c, cs, written, -, goes⟩ :=
      exists_cons_write layout (level + 1) (readable v List.mem_cons_self)
    rw [written, List.cons_append] at hbody
    rw [hbody] at skip read split
    rw [split, value_array enters skip goes, read]
    rfl

theorem reads_object (spaced : layout.Spaced) {members : List (List CodeUnit × Json)}
    (enters : enter limits = .ok inner) (keys : (members.map Prod.fst).Nodup)
    (readable : ∀ m ∈ members, Readable inner m.2) (reads : ∀ m ∈ members, Reads layout inner m.2) :
    Reads layout limits (.object members) := by
  intro level fuel rest enough ends
  obtain ⟨fuel, rfl⟩ := exists_fuel (.object enters keys readable) enough
  rcases members with - | ⟨⟨key, v⟩, ms⟩
  · rw [write, List.cons_append, List.cons_append, List.nil_append, value, enters]
    simp only [bind, Except.bind, skipBlanks_cons (show ¬Blank '\x7d' by decide)]
    rfl
  · simp only [write, List.length_append, List.length_cons] at enough
    obtain ⟨body, hbody⟩ : ∃ body, body = quote key ++ (layout.colon.toList ++
      (write layout (level + 1) v ++ (writeMembers layout (level + 1) ms ++
        (layout.break level ++ '\x7d' :: rest)))) := ⟨_, rfl⟩
    have split : write layout level (.object ((key, v) :: ms)) ++ rest =
        '\x7b' :: (layout.break (level + 1) ++ body) := by
      simp only [hbody, write, List.cons_append, List.append_assoc, List.nil_append]
    have read : Json.members fuel inner [] body = .ok ((key, v) :: ms, rest) := by
      rw [hbody]
      refine members_write spaced readable reads (fun _ ↦ Layout.blank_of_mem_break) keys ?_
      rw [List.length_append]
      omega
    have skip : skipBlanks (layout.break (level + 1) ++ body) = body := by
      rw [hbody, skipBlanks_break_quote]
    rw [quote, List.cons_append] at hbody
    rw [hbody] at skip read split
    rw [split, value_object enters skip (by decide), read]
    rfl

/-- **A readable value is read back from its text**, wherever that stands. -/
theorem Readable.reads (spaced : layout.Spaced) {v : Json} (h : Readable limits v) :
    Reads layout limits v := by
  induction h with
  | null =>
    refine .of_succ .null fun level fuel rest ends ↦ ?_
    rw [write]
    rfl
  | bool b =>
    refine .of_succ (.bool b) fun level fuel rest ends ↦ ?_
    rcases b with - | -
    · rw [write]
      rfl
    · rw [write]
      rfl
  | int n short => exact .of_succ (.int n short) fun level fuel rest ends ↦ value_int short ends
  | string units =>
    refine .of_succ (.string units) fun level fuel rest ends ↦ ?_
    have split : write layout level (.string units) ++ rest =
        '"' :: (units.flatMap escape ++ '"' :: rest) := by
      simp only [write, quote, List.cons_append, List.append_assoc, List.nil_append]
    rw [split, value, stringBody_flatMap_escape]
    rfl
  | array enters readable ih => exact reads_array enters readable ih
  | object enters keys readable ih => exact reads_object spaced enters keys readable ih

/-- **A text that was written is read as the value that it was written of.** -/
theorem parse_render (spaced : layout.Spaced) {v : Json} (readable : Readable limits v) :
    parse limits (render layout v).toList = .ok v := by
  obtain ⟨c, cs, written, solid, -⟩ := exists_cons_write layout 0 readable
  have skip : skipBlanks (write layout 0 v) = write layout 0 v := by
    rw [written, skipBlanks_cons solid]
  have read := readable.reads spaced 0 (2 * (write layout 0 v).length + 2) [] (by omega) .nil
  rw [List.append_nil] at read
  rw [render, String.toList_ofList, parse, skip, read]
  rfl

end Chip8.Json
