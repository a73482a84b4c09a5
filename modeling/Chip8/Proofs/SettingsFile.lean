import Chip8.Proofs.JsonRoundTrip
import Chip8.Settings.Basic

/-!
# Settings files are read back

Settings whose fields are of the documented kinds (`Settings.Plain`) can always be saved, and what
is loaded from the file are the same settings, so saving them again gives the same text
(`Settings.load_of_save`). There is one exception, which lies in how the origin is written: as an
address, with its sign, if it has one, behind the mark of base sixteen. There a sign is not read, so
a file with a negative origin is refused.

The file as such is a matter of the format (`Json.parse_render`). What is left are the fields: the
origin, which is written in hexadecimal and read by a reader that allows for blanks, signs and
underscores (`Text.integer?_hex`, `Text.integer?_hex_of_neg`), and the others, which are converted
to what they are already (`Settings.Plain.ofJson_file`).
-/

namespace Chip8

/-! ### Addresses -/

namespace Text

/-- Whether number text has a character as it stands and not around the number. -/
def Solid (c : Char) : Prop := plain c = c ∧ isBlank c = false

instance (c : Char) : Decidable (Solid c) := inferInstanceAs (Decidable (_ ∧ _))

variable {base width : Nat} {cs : List Char}

/-- Text without blanks is left as it is. -/
theorem strip_plain (solid : ∀ c ∈ cs, Solid c) : strip (cs.map plain) = cs := by
  have dropped {ds : List Char} (h : ∀ c ∈ ds, isBlank c = false) : ds.dropWhile isBlank = ds := by
    rcases ds with - | ⟨d, ds⟩
    · rfl
    · exact List.dropWhile_cons_of_neg (by rw [h d List.mem_cons_self]; decide)
  have same : cs.map plain = cs :=
    (List.map_congr_left fun c hc ↦ (solid c hc).1).trans (List.map_id cs)
  have blankless : ∀ c ∈ cs, isBlank c = false := fun c hc ↦ (solid c hc).2
  rw [same, strip, dropped blankless, dropped fun c hc ↦ blankless c (List.mem_reverse.1 hc),
    List.reverse_reverse]

/-- Digits are solid, and none is the underscore between digits. -/
theorem solid_digitChar {d : Nat} (h : d < 16) : Solid (digitChar d) ∧ digitChar d ≠ '_' := by
  have all : ∀ d : Fin 16, Solid (digitChar d) ∧ digitChar d ≠ '_' := by decide
  exact all ⟨d, h⟩

/-- Digits of base sixteen are read back. -/
theorem digitValues?_digitChar {ds : List Nat} (small : ∀ d ∈ ds, d < 16) {started : Bool}
    (some : started = true ∨ ds ≠ []) :
    digitValues? 16 started (ds.map digitChar) = .some ds := by
  induction ds generalizing started with
  | nil =>
    obtain rfl : started = true := some.resolve_right fun h ↦ h rfl
    rfl
  | cons d ds ih =>
    have first := small d List.mem_cons_self
    have rest : digitValues? 16 true (ds.map digitChar) = .some ds :=
      ih (fun e he ↦ small e (List.mem_cons_of_mem d he)) (.inl rfl)
    rw [List.map_cons, digitValues?, if_neg (solid_digitChar first).2,
      digitValue?_digitChar (by omega)]
    show (if d < 16 then _ else _) = _
    rw [if_pos first, rest]
    rfl

/-- A number that is not negative is written in digits alone. -/
theorem exists_digits_hex (width n : Nat) :
    ∃ ds, (hex width n).toList = ds.map digitChar ∧ (∀ d ∈ ds, d < 16) ∧ ds ≠ [] ∧
      valueOf 16 ds = n := by
  refine ⟨List.replicate (width - (digits 16 n).length) 0 ++ digitValues 16 n, ?_,
    fun d ↦ lt_of_mem_padded (by decide), ?_, ?_⟩
  · rw [toList_hex, padLeft_digits]
  · exact List.append_ne_nil_of_right_ne_nil _ (digitValues_ne_nil 16 n)
  · rw [valueOf_zeros_append, valueOf_digitValues]

/-- A negative number is written with its sign in front of digits. -/
theorem exists_digits_hex_of_neg (width : Nat) {n : Int} (negative : n < 0) :
    ∃ ds : List Nat, (hex width n).toList = '-' :: ds.map digitChar ∧ ∀ d ∈ ds, d < 16 := by
  refine ⟨List.replicate (width - 1 - (digits 16 n.natAbs).length) 0 ++ digitValues 16 n.natAbs, ?_,
    fun d ↦ lt_of_mem_padded (by decide)⟩
  rw [hex, String.toList_ofList, signed, if_pos negative, padLeft_digits]

theorem solid_of_mem_digits {ds : List Nat} (small : ∀ d ∈ ds, d < 16) :
    ∀ c ∈ ds.map digitChar, Solid c := by
  intro c hc
  obtain ⟨d, hd, rfl⟩ := List.mem_map.1 hc
  exact (solid_digitChar (small d hd)).1

/-- **An address is read back from its text.** -/
theorem integer?_hex (width n : Nat) :
    integer? none 16 ('0' :: 'x' :: (hex width n).toList) = some (n : Int) := by
  obtain ⟨ds, digits, small, nonempty, number⟩ := exists_digits_hex width n
  have solid : ∀ c ∈ '0' :: 'x' :: ds.map digitChar, Solid c :=
    List.forall_mem_cons.2
      ⟨by decide, List.forall_mem_cons.2 ⟨by decide, solid_of_mem_digits small⟩⟩
  have unmarked : dropHexMark ('0' :: 'x' :: ds.map digitChar) = ds.map digitChar := by
    rw [dropHexMark]
    intro cs same
    obtain ⟨d, rest, rfl⟩ := List.exists_cons_of_ne_nil nonempty
    exact (solid_digitChar (small d List.mem_cons_self)).2 (List.cons.inj same).1
  rw [digits, integer?, strip_plain solid]
  show (magnitude? none 16 _).map Int.ofNat = _
  rw [magnitude?, if_pos rfl, unmarked, digitValues?_digitChar small (.inr nonempty)]
  show some (Int.ofNat (valueOf 16 ds)) = _
  rw [number]
  rfl

/-- The text of a negative address has its sign behind the mark of base sixteen, and there it is not
read. -/
theorem integer?_hex_of_neg (width : Nat) {n : Int} (negative : n < 0) :
    integer? none 16 ('0' :: 'x' :: (hex width n).toList) = none := by
  obtain ⟨ds, digits, small⟩ := exists_digits_hex_of_neg width negative
  have solid : ∀ c ∈ '0' :: 'x' :: '-' :: ds.map digitChar, Solid c :=
    List.forall_mem_cons.2 ⟨by decide, List.forall_mem_cons.2
      ⟨by decide, List.forall_mem_cons.2 ⟨by decide, solid_of_mem_digits small⟩⟩⟩
  rw [digits, integer?, strip_plain solid]
  rfl

end Text

/-! ### Settings of the kinds that are documented -/

namespace Settings

/-- Settings whose fields are of the kinds that are documented: a text, whole numbers and a truth
value, and a seed that may be missing. -/
structure Plain where
  name : String
  timerPeriod : Int
  programOrigin : Int
  traceInstructions : Bool
  randomSeed : Option Int
  period_pos : 0 < timerPeriod

namespace Plain

/-- The seed as a value. -/
def seed (p : Plain) : Json := p.randomSeed.elim .null .int

/-- The settings. -/
def settings (p : Plain) : Settings :=
  ⟨.text p.name, .int p.timerPeriod, .int p.programOrigin, .bool p.traceInstructions, p.seed⟩

/-- What is written of them. -/
def file (p : Plain) : Json :=
  .ofMembers [("name", .text p.name), ("timer_period_ms", .int p.timerPeriod),
    ("program_origin", .text ("0x" ++ Text.hex 3 p.programOrigin)),
    ("trace_instructions", .bool p.traceInstructions), ("random_seed", p.seed)]

/-- Plain settings can be saved. -/
theorem save_settings (p : Plain) : p.settings.save = .ok (Json.render .indented p.file) := rfl

variable {limits : Limits}

/-- Unless nothing may lie inside an object, its parts are read under limits on numbers that are the
same. -/
theorem exists_enter (depth : limits.depth ≠ some 0) :
    ∃ inner, Json.enter limits = .ok inner ∧ inner.digits = limits.digits := by
  obtain ⟨digits, - | - | depth'⟩ := limits
  · exact ⟨_, rfl, rfl⟩
  · exact absurd rfl depth
  · exact ⟨_, rfl, rfl⟩

/-- What is written of plain settings can be read, if numbers may have any length. -/
theorem readable_file (digits : limits.digits = none) (depth : limits.depth ≠ some 0) (p : Plain) :
    p.file.Readable limits := by
  obtain ⟨inner, enters, same⟩ := exists_enter depth
  have int (n : Int) : Json.Readable inner (.int n) := by
    refine .int n ?_
    rw [same, digits]
    rfl
  have seed : Json.Readable inner p.seed := by
    rw [Plain.seed]
    rcases p.randomSeed with - | n
    · exact .null
    · exact int n
  have keys : (["name", "timer_period_ms", "program_origin", "trace_instructions",
      "random_seed"].map CodeUnit.ofString).Nodup := by decide
  refine .object enters keys ?_
  simp only [List.map_cons, List.map_nil, List.forall_mem_cons]
  exact ⟨.string _, int _, .string _, .bool _, seed, nofun⟩

/-- What is loaded are the settings that the written value describes. -/
theorem load_render (digits : limits.digits = none) (depth : limits.depth ≠ some 0) (p : Plain) :
    load limits (Json.render .indented p.file) = ofJson limits p.file := by
  rw [load, Json.parse_render Json.Layout.spaced_indented (p.readable_file digits depth)]

/-- The value under a key, with the members told apart by their names. -/
theorem lookup_ofString (key k : String) (v : Json) (ms : List (List CodeUnit × Json)) :
    Json.lookup (CodeUnit.ofString key) ((CodeUnit.ofString k, v) :: ms) =
      if k = key then some v else Json.lookup (CodeUnit.ofString key) ms := by
  have same : CodeUnit.ofString k = CodeUnit.ofString key ↔ k = key :=
    ⟨CodeUnit.ofString_injective, congrArg CodeUnit.ofString⟩
  simp only [Json.lookup, same]

/-- Apart from the origin every field is read as the one that was written. -/
theorem ofJson_file (limits : Limits) (p : Plain) :
    ofJson limits p.file =
      ((Conversion.origin (.text ("0x" ++ Text.hex 3 p.programOrigin))).mapError
        Error.conversion).bind fun origin ↦ check { p.settings with programOrigin := origin } := by
  have period : Conversion.integer limits (.int p.timerPeriod) = .ok p.timerPeriod := rfl
  simp only [ofJson, file, Json.ofMembers, List.map_cons, lookup_ofString, String.reduceEq, if_true,
    if_false, Option.getD_some, period]
  generalize (Conversion.origin _).mapError Error.conversion = origin
  rfl

/-- A positive period passes the check. -/
theorem check_settings (p : Plain) (origin : Json) :
    check { p.settings with programOrigin := origin } =
      .ok { p.settings with programOrigin := origin } := by
  have positive : (Number.int p.timerPeriod).isNonPositive = false :=
    decide_eq_false (Int.not_le.2 p.period_pos)
  show (if (Number.int p.timerPeriod).isNonPositive then _ else _) = _
  rw [positive]
  rfl

/-- The origin is read from the text of an address. -/
theorem origin_text (s : String) :
    Conversion.origin (.text ("0x" ++ s)) =
      (Text.integer? none 16 ('0' :: 'x' :: s.toList)).elim (.error .badValue) (.ok ∘ .int) := by
  have chars : CodeUnit.toChars (CodeUnit.ofString ("0x" ++ s)) = '0' :: 'x' :: s.toList := by
    rw [CodeUnit.toChars_ofString, String.toList_append]
    rfl
  show (Text.integer? none 16 (CodeUnit.toChars (CodeUnit.ofString ("0x" ++ s)))).elim _ _ = _
  rw [chars]

end Plain

/-- **Plain settings are read back from their file**, unless the origin is negative. -/
theorem load_of_save {limits : Limits} (digits : limits.digits = none)
    (depth : limits.depth ≠ some 0) (p : Plain) :
    ∃ text, p.settings.save = .ok text ∧
      (0 ≤ p.programOrigin →
        load limits text = .ok p.settings ∧ (load limits text).bind save = .ok text) ∧
      (p.programOrigin < 0 → load limits text = .error (.conversion .badValue)) := by
  refine ⟨_, p.save_settings, fun nonneg ↦ ?_, fun negative ↦ ?_⟩
  · obtain ⟨n, origin⟩ := Int.eq_ofNat_of_zero_le nonneg
    have loaded : load limits (Json.render .indented p.file) = .ok p.settings := by
      rw [p.load_render digits depth, p.ofJson_file, Plain.origin_text, origin, Text.integer?_hex]
      show check { p.settings with programOrigin := .int n } = _
      rw [p.check_settings, ← origin]
      rfl
    refine ⟨loaded, ?_⟩
    rw [loaded]
    exact p.save_settings
  · rw [p.load_render digits depth, p.ofJson_file, Plain.origin_text,
      Text.integer?_hex_of_neg 3 negative]
    rfl

/-- Settings with a name of characters that are escaped: quotes, a backslash, a line feed, a control
character, and one beyond `U+FFFF`. -/
def escaped : Plain := ⟨"\"a\"\\\n\x01é😀", 1000000007, 0x200, true, some (-1), by decide⟩

/-- The same with a negative origin. -/
def displaced : Plain := { escaped with programOrigin := -5 }

/-- The first ones are read back, and the others are refused, also by a reader that takes one object
only. -/
theorem load_of_save_escaped :
    (∃ text, escaped.settings.save = .ok text ∧
      load .unlimited text = .ok escaped.settings) ∧
    ∃ text, displaced.settings.save = .ok text ∧
      load ⟨none, some 1⟩ text = .error (.conversion .badValue) := by
  constructor
  · obtain ⟨text, saved, loads, -⟩ := load_of_save (show Limits.unlimited.digits = none from rfl)
      nofun escaped
    exact ⟨text, saved, (loads (by decide)).1⟩
  · obtain ⟨text, saved, -, refused⟩ := load_of_save
      (show (⟨none, some 1⟩ : Limits).digits = none from rfl) (by decide) displaced
    exact ⟨text, saved, refused (by decide)⟩

end Settings

end Chip8
