import Chip8.Instr.Disassembly
import Chip8.Proofs.Numerals
import Chip8.Proofs.Recording
import Chip8.Proofs.Step

/-!
# What the text of a word tells

A line of assembler is a mnemonic and some operands (`Line`). Every word is one line
(`Word.line`, `disassemble_eq_text`), and nothing is lost on the way from the word to its text that
the machine would look at:

* the text of a line tells the line, because neither the mnemonic nor an operand holds a blank, and
  the text of an operand tells the operand (`Line.eq_of_text_eq`, `Operand.read_text`);
* the line of an instruction tells the instruction and the operands that it uses
  (`Line.instr?_line`), and the line of a word that is no instruction tells the word.

So two words with the same text decode to the same instruction, up to an operand that is not used,
or are the same word (`essential_eq_of_disassemble_eq`). The meaning of an instruction does not
depend on such an operand (`State.exec_essential`), so the words do the same to every machine: what
a machine remembers, reports or writes down of the word itself is the only difference
(`Machine.sameButWord_of_disassemble_eq`).
-/

namespace Chip8

open Text

/-! ### Lines of assembler -/

/-- An operand that is the same in every line that has it. -/
inductive Operand.Name
  /-- The index register. -/
  | index
  /-- The address of a glyph. -/
  | font
  /-- The decimal digits of a register. -/
  | digits
  | delay
  | sound
  /-- The key that is waited for. -/
  | key
  /-- The cells at the index register. -/
  | cells
  deriving DecidableEq

/-- An operand of a line. -/
inductive Operand
  | register (x : RegIndex)
  | byte (b : Byte)
  | target (t : Target)
  | word (w : Word)
  | count (n : Fin 16)
  | named (n : Operand.Name)
  deriving DecidableEq

/-- A mnemonic with its operands. -/
structure Line where
  mnemonic : String
  operands : List Operand
  deriving DecidableEq

namespace Operand

/-- Every name. -/
def Name.all : List Name := [index, font, digits, delay, sound, key, cells]

/-- How an operand with a name is written. -/
def Name.text : Name → String
  | index => "I"
  | font => "F"
  | digits => "B"
  | delay => "DT"
  | sound => "ST"
  | key => "K"
  | cells => "[I]"

/-- How an operand is written. -/
def text : Operand → String
  | register x => "V" ++ hex 1 x.val
  | byte b => "0x" ++ hex 2 b.toNat
  | target t => "0x" ++ hex 3 t.toNat
  | word w => "0x" ++ hex 4 w.toNat
  | count n => decimal n.val
  | named n => n.text

/-- The literal of some hexadecimal digits, which are told apart by how many they are. -/
def literal (ds : List Char) : Operand :=
  if ds.length = 2 then byte (BitVec.ofNat 8 (number 16 ds))
  else if ds.length = 3 then target (BitVec.ofNat 12 (number 16 ds))
  else word (BitVec.ofNat 16 (number 16 ds))

/-- The operand of which a text is the text. -/
def read : List Char → Operand
  | 'V' :: ds => register (BitVec.ofNat 4 (number 16 ds)).toFin
  | '0' :: 'x' :: ds => literal ds
  | cs =>
    match Name.all.find? fun n ↦ n.text.toList = cs with
    | some n => named n
    | none => count (BitVec.ofNat 4 (number 10 cs)).toFin

end Operand

namespace Line

/-- Words with a comma after each but the last. -/
def punctuate : List (List Char) → List (List Char)
  | [] => []
  | [cs] => [cs]
  | cs :: ds :: rest => (cs ++ [',']) :: punctuate (ds :: rest)

/-- The text of a line: the mnemonic and the operands with blanks between them, and with commas
between the operands. -/
def text (l : Line) : String :=
  String.ofList ([' '].intercalate
    (l.mnemonic.toList :: punctuate (l.operands.map fun o ↦ o.text.toList)))

/-- The instruction of which a line is the line, with the operands that it uses. -/
def instr? : Line → Option Instr
  | ⟨"CLS", []⟩ => some .clear
  | ⟨"RET", []⟩ => some .ret
  | ⟨"JP", [.target t]⟩ => some (.jump t)
  | ⟨"CALL", [.target t]⟩ => some (.call t)
  | ⟨"SE", [.register x, .byte nn]⟩ => some (.skipByte true x nn)
  | ⟨"SNE", [.register x, .byte nn]⟩ => some (.skipByte false x nn)
  | ⟨"SE", [.register x, .register y]⟩ => some (.skipReg true x y)
  | ⟨"SNE", [.register x, .register y]⟩ => some (.skipReg false x y)
  | ⟨"SKP", [.register x]⟩ => some (.skipKey true x)
  | ⟨"SKNP", [.register x]⟩ => some (.skipKey false x)
  | ⟨"LD", [.register x, .byte nn]⟩ => some (.loadByte x nn)
  | ⟨"ADD", [.register x, .byte nn]⟩ => some (.addByte x nn)
  | ⟨"LD", [.register x, .register y]⟩ => some (.alu .copy x y)
  | ⟨"OR", [.register x, .register y]⟩ => some (.alu .or x y)
  | ⟨"AND", [.register x, .register y]⟩ => some (.alu .and x y)
  | ⟨"XOR", [.register x, .register y]⟩ => some (.alu .xor x y)
  | ⟨"ADD", [.register x, .register y]⟩ => some (.alu .add x y)
  | ⟨"SUB", [.register x, .register y]⟩ => some (.alu .sub x y)
  | ⟨"SUBN", [.register x, .register y]⟩ => some (.alu .subn x y)
  | ⟨"SHR", [.register x]⟩ => some (.alu .shr x x)
  | ⟨"SHL", [.register x]⟩ => some (.alu .shl x x)
  | ⟨"LD", [.named .index, .target t]⟩ => some (.loadIndex t)
  | ⟨"JP", [.register _, .target t]⟩ => some (.jumpOffset t)
  | ⟨"RND", [.register x, .byte nn]⟩ => some (.random x nn)
  | ⟨"DRW", [.register x, .register y, .count n]⟩ => some (.draw x y n)
  | ⟨"LD", [.register x, .named .delay]⟩ => some (.readDelay x)
  | ⟨"LD", [.register x, .named .key]⟩ => some (.awaitKey x)
  | ⟨"LD", [.named .delay, .register x]⟩ => some (.setDelay x)
  | ⟨"LD", [.named .sound, .register x]⟩ => some (.setSound x)
  | ⟨"ADD", [.named .index, .register x]⟩ => some (.addIndex x)
  | ⟨"LD", [.named .font, .register x]⟩ => some (.glyph x)
  | ⟨"LD", [.named .digits, .register x]⟩ => some (.digits x)
  | ⟨"LD", [.named .cells, .register x]⟩ => some (.store x)
  | ⟨"LD", [.register x, .named .cells]⟩ => some (.fetch x)
  | _ => none

end Line

/-- The line of an instruction. -/
def Instr.line : Instr → Line
  | clear => ⟨"CLS", []⟩
  | ret => ⟨"RET", []⟩
  | jump t => ⟨"JP", [.target t]⟩
  | call t => ⟨"CALL", [.target t]⟩
  | skipByte equal x nn => ⟨if equal then "SE" else "SNE", [.register x, .byte nn]⟩
  | skipReg equal x y => ⟨if equal then "SE" else "SNE", [.register x, .register y]⟩
  | skipKey down x => ⟨if down then "SKP" else "SKNP", [.register x]⟩
  | loadByte x nn => ⟨"LD", [.register x, .byte nn]⟩
  | addByte x nn => ⟨"ADD", [.register x, .byte nn]⟩
  | alu .shr x _ => ⟨"SHR", [.register x]⟩
  | alu .shl x _ => ⟨"SHL", [.register x]⟩
  | alu op x y => ⟨op.mnemonic, [.register x, .register y]⟩
  | loadIndex t => ⟨"LD", [.named .index, .target t]⟩
  | jumpOffset t => ⟨"JP", [.register .first, .target t]⟩
  | random x nn => ⟨"RND", [.register x, .byte nn]⟩
  | draw x y rows => ⟨"DRW", [.register x, .register y, .count rows]⟩
  | readDelay x => ⟨"LD", [.register x, .named .delay]⟩
  | awaitKey x => ⟨"LD", [.register x, .named .key]⟩
  | setDelay x => ⟨"LD", [.named .delay, .register x]⟩
  | setSound x => ⟨"LD", [.named .sound, .register x]⟩
  | addIndex x => ⟨"ADD", [.named .index, .register x]⟩
  | glyph x => ⟨"LD", [.named .font, .register x]⟩
  | digits x => ⟨"LD", [.named .digits, .register x]⟩
  | store x => ⟨"LD", [.named .cells, .register x]⟩
  | fetch x => ⟨"LD", [.register x, .named .cells]⟩

/-- The line of a word: its instruction or, if it is none, the word as data. -/
def Word.line (w : Word) : Line :=
  match decode w with
  | some i => i.line
  | none => ⟨"DW", [.word w]⟩

/-- The line of an instruction tells the instruction and the operands that it uses. -/
theorem Line.instr?_line (i : Instr) : i.line.instr? = some i.essential := by
  cases i with
  | skipByte equal x nn => cases equal <;> rfl
  | skipReg equal x y => cases equal <;> rfl
  | skipKey down x => cases down <;> rfl
  | alu op x y => cases op <;> rfl
  | _ => rfl

/-! ### The text of an operand tells the operand -/

namespace Operand

theorem read_register (s : String) :
    read ("V" ++ s).toList = register (BitVec.ofNat 4 (number 16 s.toList)).toFin := by
  rw [String.toList_append]
  rfl

theorem read_literal (s : String) : read ("0x" ++ s).toList = literal s.toList := by
  rw [String.toList_append]
  rfl

/-- **The text of an operand tells the operand.** -/
theorem read_text (o : Operand) : read o.text.toList = o := by
  cases o with
  | register x =>
    have same : (BitVec.ofNat 4 x.val).toFin = x := Fin.ext (Nat.mod_eq_of_lt x.isLt)
    rw [text, read_register, number_hex, same]
  | byte b =>
    have length : (hex 2 b.toNat).toList.length = 2 := length_hex b.isLt
    rw [text, read_literal, literal, if_pos length, number_hex, BitVec.ofNat_toNat,
      BitVec.setWidth_eq]
  | target t =>
    have length : (hex 3 t.toNat).toList.length = 3 := length_hex t.isLt
    rw [text, read_literal, literal, length, if_neg (by decide), if_pos rfl, number_hex,
      BitVec.ofNat_toNat, BitVec.setWidth_eq]
  | word w =>
    have length : (hex 4 w.toNat).toList.length = 4 := length_hex w.isLt
    rw [text, read_literal, literal, length, if_neg (by decide), if_neg (by decide), number_hex,
      BitVec.ofNat_toNat, BitVec.setWidth_eq]
  | count n =>
    have counts : ∀ n : Fin 16, read (count n).text.toList = count n := by decide +kernel
    exact counts n
  | named n => cases n <;> rfl

theorem blank_not_mem_hex (width n : Nat) : ' ' ∉ (hex width n).toList := by
  intro blank
  rw [toList_hex] at blank
  have digit := isSome_digitValue?_of_mem (by decide) (by decide) blank
  exact absurd digit (by decide)

/-- No operand holds a blank. -/
theorem blank_not_mem_text (o : Operand) : ' ' ∉ o.text.toList := by
  cases o with
  | register b | byte b | target b | word b =>
    rw [text, String.toList_append, List.mem_append, not_or]
    exact ⟨by decide, blank_not_mem_hex _ _⟩
  | count n =>
    have counts : ∀ n : Fin 16, ' ' ∉ (count n).text.toList := by decide +kernel
    exact counts n
  | named n => cases n <;> decide

end Operand

/-! ### The text of a line tells the line -/

namespace Line

variable {k l : Line} {css dss : List (List Char)}

theorem length_punctuate (css : List (List Char)) : (punctuate css).length = css.length := by
  induction css with
  | nil => rfl
  | cons cs css ih =>
    cases css with
    | nil => rfl
    | cons ds rest => simp only [punctuate, List.length_cons, ih]

/-- Commas stand after all words but the last, so they can be taken away again. -/
theorem punctuate_injective (h : punctuate css = punctuate dss) : css = dss := by
  have lengths : css.length = dss.length := by
    rw [← length_punctuate css, h, length_punctuate]
  induction css generalizing dss with
  | nil => exact (List.length_eq_zero_iff.1 lengths.symm).symm
  | cons cs css ih =>
    match css, dss with
    | _, [] => cases lengths
    | [], [ds] => exact h
    | _ :: _, [ds] => cases lengths
    | [], _ :: _ :: _ => cases lengths
    | c :: css, d :: e :: dss =>
      obtain ⟨first, rest⟩ := List.cons.inj h
      rw [List.append_cancel_right first, ih rest (Nat.succ.inj lengths)]

theorem not_mem_punctuate (h : ∀ cs ∈ css, ' ' ∉ cs) : ∀ cs ∈ punctuate css, ' ' ∉ cs := by
  induction css with
  | nil => exact h
  | cons cs css ih =>
    cases css with
    | nil => exact h
    | cons ds rest =>
      obtain ⟨first, others⟩ := List.forall_mem_cons.1 h
      refine List.forall_mem_cons.2 ⟨?_, ih others⟩
      rw [List.mem_append, not_or]
      exact ⟨first, by decide⟩

/-- The words of a line, of which none holds a blank. -/
theorem splitOn_text (hl : ' ' ∉ l.mnemonic.toList) :
    l.text.toList.splitOn ' ' =
      l.mnemonic.toList :: punctuate (l.operands.map fun o ↦ o.text.toList) := by
  rw [text, String.toList_ofList]
  refine List.splitOn_intercalate ' ' (List.forall_mem_cons.2 ⟨hl, not_mem_punctuate ?_⟩) nofun
  intro cs hcs
  obtain ⟨o, -, rfl⟩ := List.mem_map.1 hcs
  exact o.blank_not_mem_text

/-- **The text of a line tells the line**, if no mnemonic holds a blank. -/
theorem eq_of_text_eq (hk : ' ' ∉ k.mnemonic.toList) (hl : ' ' ∉ l.mnemonic.toList)
    (h : k.text = l.text) : k = l := by
  have words := splitOn_text hk
  rw [h, splitOn_text hl] at words
  obtain ⟨mnemonic, operands⟩ := List.cons.inj words
  have texts := congrArg (List.map Operand.read) (punctuate_injective operands)
  simp only [List.map_map, Function.comp_def, Operand.read_text, List.map_id'] at texts
  obtain ⟨m, os⟩ := k
  obtain ⟨n, ps⟩ := l
  rw [Line.mk.injEq]
  exact ⟨(String.toList_inj.1 mnemonic).symm, texts.symm⟩

end Line

/-! ### The text of a word -/

namespace Line

theorem text_nil (mnemonic : String) : text ⟨mnemonic, []⟩ = mnemonic := by
  apply String.toList_inj.1
  simp [text, punctuate, List.intercalate]

theorem text_unary (mnemonic : String) (a : Operand) :
    text ⟨mnemonic, [a]⟩ = Instr.unary mnemonic a.text := by
  apply String.toList_inj.1
  simp [text, punctuate, List.intercalate, Instr.unary]

theorem text_binary (mnemonic : String) (a b : Operand) :
    text ⟨mnemonic, [a, b]⟩ = Instr.binary mnemonic a.text b.text := by
  apply String.toList_inj.1
  simp [text, punctuate, List.intercalate, Instr.binary]

theorem text_ternary (mnemonic : String) (a b c : Operand) :
    text ⟨mnemonic, [a, b, c]⟩ = Instr.binary mnemonic a.text b.text ++ ", " ++ c.text := by
  apply String.toList_inj.1
  simp [text, punctuate, List.intercalate, Instr.binary]

end Line

namespace Instr

/-- The text of an instruction is that of its line. -/
theorem text_line (i : Instr) : i.line.text = i.text := by
  cases i with
  | clear | ret => exact Line.text_nil _
  | jump | call | skipKey => exact Line.text_unary _ _
  | alu op x y =>
    cases op with
    | shr | shl => exact Line.text_unary _ _
    | _ => exact Line.text_binary _ _ _
  | draw x y rows => exact Line.text_ternary _ _ _ _
  | jumpOffset t =>
    have first : (Operand.register .first).text = "V0" := by decide +kernel
    rw [line, Line.text_binary, first]
    rfl
  | _ => exact Line.text_binary _ _ _

/-- An operand that is not used is not shown. -/
theorem text_essential (i : Instr) : i.essential.text = i.text := by
  cases i with
  | alu op x y => cases op <;> rfl
  | _ => rfl

/-- No mnemonic of an instruction holds a blank. -/
theorem blank_not_mem_mnemonic (i : Instr) : ' ' ∉ i.line.mnemonic.toList := by
  cases i with
  | skipByte equal x nn => cases equal <;> simp [line]
  | skipReg equal x y => cases equal <;> simp [line]
  | skipKey down x => cases down <;> simp [line]
  | alu op x y => cases op <;> simp [line, Alu.mnemonic]
  | _ => simp [line]

end Instr

variable {v w : Word}

theorem Word.line_of_some {i : Instr} (h : decode w = some i) : Word.line w = i.line := by
  rw [line, h]

theorem Word.line_of_none (h : decode w = none) : Word.line w = ⟨"DW", [.word w]⟩ := by
  rw [line, h]

/-- The text of a word is that of its line. -/
theorem disassemble_eq_text (w : Word) : disassemble w = (Word.line w).text := by
  cases decodes : decode w with
  | some i => rw [Word.line_of_some decodes, Instr.text_line, disassemble, decodes]
  | none =>
    rw [Word.line_of_none decodes, Line.text_unary, disassemble, decodes]
    apply String.toList_inj.1
    simp [Instr.unary, Operand.text]

theorem Word.blank_not_mem_mnemonic (w : Word) : ' ' ∉ (Word.line w).mnemonic.toList := by
  cases decodes : decode w with
  | some i =>
    rw [line_of_some decodes]
    exact i.blank_not_mem_mnemonic
  | none =>
    rw [line_of_none decodes]
    show ' ' ∉ "DW".toList
    decide

/-- The line of a word tells the instruction and what it uses, if the word is one. -/
theorem Word.instr?_line (w : Word) : (Word.line w).instr? = (decode w).map Instr.essential := by
  cases decodes : decode w with
  | some i =>
    rw [line_of_some decodes, Line.instr?_line]
    rfl
  | none =>
    rw [line_of_none decodes]
    rfl

/-- **Words with the same text are the same instruction or the same word.** Of an instruction the
text tells the operands that it uses. -/
theorem essential_eq_of_disassemble_eq (h : disassemble v = disassemble w) :
    (decode v).map Instr.essential = (decode w).map Instr.essential ∧ (decode v = none → v = w) := by
  rw [disassemble_eq_text, disassemble_eq_text] at h
  have lines := Line.eq_of_text_eq (Word.blank_not_mem_mnemonic v) (Word.blank_not_mem_mnemonic w) h
  have instructions := congrArg Line.instr? lines
  rw [Word.instr?_line, Word.instr?_line] at instructions
  refine ⟨instructions, fun data ↦ ?_⟩
  have none : decode w = none := by
    rw [data] at instructions
    exact Option.map_eq_none_iff.1 instructions.symm
  rw [Word.line_of_none data, Word.line_of_none none] at lines
  cases lines
  rfl

/-! ### Executing words with the same text -/

/-- An event that tells of another word, if it tells of one. -/
def Event.withWord (w : Word) : Event → Event
  | instruction pc _ text => instruction pc w.toNat text
  | e => e

/-- A line of the log that shows another word, if it shows one. -/
def LogEntry.withWord (w : Word) : LogEntry → LogEntry
  | instruction pc _ text => instruction pc w.toNat text
  | l => l

/-- What an instruction itself reports and writes to the log does not tell of a word. -/
theorem State.withWord_of_exec {s : State} {i : Instr} {e : Effect} (h : s.exec i = .ok e)
    (w : Word) :
    e.events.map (Event.withWord w) = e.events ∧ e.log.map (LogEntry.withWord w) = e.log := by
  rcases State.reports_of_exec h with ⟨events, log, -, -⟩ | ⟨events, log, -, -, -⟩ |
    ⟨events, log, -, -, -⟩ | ⟨events, log, -, -⟩ | ⟨events, log, -⟩
  all_goals
    rw [events, log]
    exact ⟨rfl, rfl⟩

/-- Outcomes of a machine `m` that executed one word, and then those of the same machine if it
executes the word `w`: they differ in the words and in nothing else. -/
structure Outcome.SameButWord (m : Machine) (w : Word) (o p : Outcome Fault Word) : Prop where
  /-- Both are refused, and for the same reason, or each answers its word. -/
  answer : p.answer = o.answer.map fun _ ↦ w
  state : p.machine.state = o.machine.state
  setup : p.machine.setup = o.machine.setup
  last : p.machine.last = some w
  /-- Observers are told the same but for the word. -/
  events : ∃ es, o.machine.tracer = m.tracer.report es ∧
    p.machine.tracer = m.tracer.report (es.map (Event.withWord w))
  log : p.log = o.log.map (LogEntry.withWord w)

namespace Machine

variable {m : Machine} {i j : Instr}

/-- A word that is executed does nothing that another word does not do whose instruction uses the
same operands. -/
theorem sameButWord_of_decode (m : Machine) (hv : decode v = some i) (hw : decode w = some j)
    (same : i.essential = j.essential) :
    Outcome.SameButWord m w (m.execute v) (m.execute w) := by
  have text : j.text = i.text := by
    rw [← Instr.text_essential, ← same, Instr.text_essential]
  have announced : (m.announcement v i).map (LogEntry.withWord w) = m.announcement w j := by
    rw [announcement, announcement, text]
    split
    · rfl
    · rfl
  have meaning : m.state.exec j = m.state.exec i := by
    rw [← State.exec_essential, ← same, State.exec_essential]
  cases exec : m.state.exec i with
  | error f =>
    rw [execute_of_exec_error hv exec, execute_of_exec_error hw (meaning.trans exec)]
    refine ⟨rfl, rfl, rfl, rfl, ⟨_, m.tracer_announce v i, ?_⟩, announced.symm⟩
    rw [m.tracer_announce w j, text]
    rfl
  | ok e =>
    obtain ⟨events, log⟩ := State.withWord_of_exec exec w
    rw [execute_of_exec_ok hv exec, execute_of_exec_ok hw (meaning.trans exec)]
    refine ⟨rfl, ?_, ?_, ?_, ?_, ?_⟩
    · rw [state_apply, state_apply]
    · rw [setup_apply, setup_apply, setup_announce, setup_announce]
    · rw [last_apply, last_announce]
    · refine ⟨.instruction m.state.pc.toNat v.toNat i.text :: e.events, ?_, ?_⟩
      · rw [tracer_apply, tracer_announce, ← Tracer.report_append]
        rfl
      · rw [tracer_apply, tracer_announce, ← Tracer.report_append, List.map_cons, events, text]
        rfl
    · rw [List.map_append, announced, log]

/-- **Words with the same text do the same.** Whatever integers are taken for words, if they are
disassembled alike, every machine refuses both for the same reason or completes both with the same
state. What it keeps, reports and writes down differs in the word alone. -/
theorem sameButWord_of_disassemble_eq (m : Machine) (a b : Int)
    (h : disassemble (Word.ofInt a) = disassemble (Word.ofInt b)) :
    Outcome.SameButWord m (Word.ofInt b) (m.execute (Word.ofInt a)) (m.execute (Word.ofInt b)) := by
  obtain ⟨instructions, data⟩ := essential_eq_of_disassemble_eq h
  cases decodes : decode (Word.ofInt a) with
  | some i =>
    rw [decodes] at instructions
    obtain ⟨j, decodes', same⟩ := Option.map_eq_some_iff.1 instructions.symm
    exact m.sameButWord_of_decode decodes decodes' same.symm
  | none =>
    -- The text of a word that is no instruction shows the whole word.
    rw [← data decodes, execute_of_decode_eq_none decodes]
    exact ⟨rfl, rfl, rfl, rfl, ⟨[], rfl, rfl⟩, rfl⟩

/-- Both are a shift of `V1`: the third nibble does not count, nor does what is beyond sixteen
bits. -/
theorem sameButWord_shifts :
    Outcome.SameButWord (standard 0x200) (Word.ofInt (-0x7ECA))
      ((standard 0x200).execute (Word.ofInt 0x58126))
      ((standard 0x200).execute (Word.ofInt (-0x7ECA))) ∧
    Word.ofInt 0x58126 ≠ Word.ofInt (-0x7ECA) :=
  ⟨sameButWord_of_disassemble_eq _ _ _ rfl, by decide⟩

end Machine

end Chip8
