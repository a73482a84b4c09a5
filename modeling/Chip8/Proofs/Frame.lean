import Chip8.Machine.Exec

/-!
# What an instruction leaves alone

Apart from registers, an instruction writes at most one part of the state, and which one is known
from the instruction (`Instr.writes`). `State.frame_of_exec` is the one case analysis behind that:
the effect of an instruction agrees with the state before it on every part that the instruction does
not write, on the keypad and on the count.

What becomes of a part that is written is said where it is used, and for the timers here
(`State.timers_of_exec`).
-/

namespace Chip8

/-- The parts of a state that instructions write, registers apart. The register that a key goes to
belongs to the mode. -/
inductive Part
  | memory | stack | screen | timers | mode | random
  deriving DecidableEq

/-- Whether an instruction writes a part. -/
def Instr.writes : Instr → Part → Bool
  | clear, .screen => true
  | ret, .stack => true
  | call _, .stack => true
  | random .., .random => true
  | draw .., .screen => true
  | awaitKey _, .mode => true
  | setDelay _, .timers => true
  | setSound _, .timers => true
  | digits _, .memory => true
  | store _, .memory => true
  | _, _ => false

namespace State

variable {s t : State} {i : Instr} {e : Effect}

/-- A state agrees with an earlier one on all that an instruction between them does not write. -/
structure Frame (i : Instr) (s t : State) : Prop where
  memory : i.writes .memory = false → t.memory = s.memory
  stack : i.writes .stack = false → t.stack = s.stack
  screen : i.writes .screen = false → t.screen = s.screen
  timers : i.writes .timers = false → t.timers = s.timers
  mode : i.writes .mode = false → t.mode = s.mode
  waitRegister : i.writes .mode = false → t.waitRegister = s.waitRegister
  random : i.writes .random = false → t.random = s.random
  keypad : t.keypad = s.keypad
  executed : t.executed = s.executed

theorem Frame.refl (i : Instr) (s : State) : Frame i s s :=
  ⟨fun _ ↦ rfl, fun _ ↦ rfl, fun _ ↦ rfl, fun _ ↦ rfl, fun _ ↦ rfl, fun _ ↦ rfl, fun _ ↦ rfl, rfl,
    rfl⟩

/-- Registers do not count. -/
theorem Frame.of_registers {registers : Registers} (h : t = { s with registers }) : Frame i s t :=
  h ▸ { Frame.refl i s with }

/-- Filling registers changes registers only. -/
theorem exists_registers_putV (s : State) (k : Nat) (bytes : List Byte) :
    ∃ registers, s.putV k bytes = { s with registers } := by
  induction bytes generalizing s k with
  | nil => exact ⟨s.registers, rfl⟩
  | cons b bs ih =>
    rw [putV]
    split
    · next h =>
      obtain ⟨registers, hr⟩ := ih (s.setV ⟨k, h⟩ b) (k + 1)
      exact ⟨registers, hr⟩
    · exact ih s (k + 1)

/-- Writing a result with its flag changes registers only. -/
theorem exists_registers_finish (s : State) (x : RegIndex) (result : Byte) (flag : Option Bool) :
    ∃ registers, s.finish x result flag = { s with registers } := by
  cases flag with
  | none => exact ⟨_, rfl⟩
  | some flag => exact ⟨_, rfl⟩

/-- **An instruction agrees with the state before it on all that it does not write.** -/
theorem frame_of_exec (h : s.exec i = .ok e) : Frame i s e.state := by
  cases i with
  | clear =>
    cases h
    exact { Frame.refl .clear s with screen := nofun }
  | ret =>
    obtain ⟨r, -, h⟩ := Fault.exists_of_bind_eq_ok h
    cases h
    exact { Frame.refl .ret s with stack := nofun }
  | call target =>
    obtain ⟨stack, -, h⟩ := Fault.exists_of_bind_eq_ok h
    cases h
    exact { Frame.refl (.call target) s with stack := nofun }
  | skipKey down x =>
    obtain ⟨isDown, -, h⟩ := Fault.exists_of_bind_eq_ok h
    cases h
    exact .of_registers rfl
  | random x nn =>
    cases h
    exact { Frame.refl (.random x nn) s with random := nofun }
  | draw x y rows =>
    obtain ⟨sprite, -, h⟩ := Fault.exists_of_bind_eq_ok h
    cases h
    exact { Frame.refl (.draw x y rows) s with screen := nofun }
  | awaitKey x =>
    cases h
    cases key : s.keypad.highest? with
    | some k => exact .of_registers (by rw [awaitKey, key]; rfl)
    | none =>
      rw [awaitKey, key]
      exact { Frame.refl (.awaitKey x) s with mode := nofun, waitRegister := nofun }
  | alu op x y =>
    cases h
    exact .of_registers (exists_registers_finish ..).choose_spec
  | setDelay x =>
    cases h
    exact { Frame.refl (.setDelay x) s with timers := nofun }
  | setSound x =>
    cases h
    exact { Frame.refl (.setSound x) s with timers := nofun }
  | digits x =>
    obtain ⟨memory, -, h⟩ := Fault.exists_of_bind_eq_ok h
    cases h
    exact { Frame.refl (.digits x) s with memory := nofun }
  | store x =>
    obtain ⟨memory, -, h⟩ := Fault.exists_of_bind_eq_ok h
    cases h
    exact { Frame.refl (.store x) s with memory := nofun }
  | fetch x =>
    obtain ⟨bytes, -, h⟩ := Fault.exists_of_bind_eq_ok h
    cases h
    obtain ⟨r, hr⟩ := s.exists_registers_putV 0 bytes
    exact .of_registers (by rw [Effect.silent, hr]; rfl)
  | jump target | skipByte equal x nn | skipReg equal x y | loadByte x nn | addByte x nn
  | loadIndex target | jumpOffset target | readDelay x | addIndex x | glyph x =>
    cases h
    exact .of_registers rfl

/-- Instructions set the counters of the timers and nothing else of them. -/
theorem timers_of_exec (h : s.exec i = .ok e) :
    e.state.timers =
      match i with
      | .setDelay x => s.timers.setDelay (s.v x).toNat
      | .setSound x => s.timers.setSound (s.v x).toNat
      | _ => s.timers := by
  cases i with
  | setDelay x =>
    cases h
    rfl
  | setSound x =>
    cases h
    rfl
  | _ => exact (frame_of_exec h).timers rfl

end State

end Chip8
