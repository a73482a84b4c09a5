import Chip8.Proofs.CallReturn

/-!
# No frame is lost

A host that polls shows the pixels when something is pending and then says so. What it shows in
between is what it showed last: the pixels at the latest `Machine.clearDrawPending` or reset, or
those that the machine started with (`Machine.shown`).

Everything that can touch a pixel raises the flag: an instruction (`State.drawnOn_of_exec`), an edit
of the host (`Command.drawnOn_of_edit`), and so a command as a whole (`Machine.drawnOn_perform`).
What is refused leaves pixels and flag alone, so it is no special case. It follows that pixels
without a flag are pixels that are shown, after every session (`Machine.pixels_eq_shown`).
-/

namespace Chip8

namespace Screen

/-- The pixels of the machine's screen. -/
abbrev Pixels := Vector (Vector Bool standardWidth) standardHeight

variable {width height : Nat}

/-- A screen after something that may draw: the flag is raised, or nothing has changed. -/
def DrawnOn (s t : Screen width height) : Prop := t.dirty = true ∨ t = s

variable {s t : Screen width height}

theorem DrawnOn.refl (s : Screen width height) : s.DrawnOn s := .inr rfl

/-- Drawing does not lower the flag. -/
theorem DrawnOn.dirty (h : s.DrawnOn t) (dirty : s.dirty = true) : t.dirty = true := by
  obtain raised | rfl := h
  · exact raised
  · exact dirty

theorem dirty_of_set {x y : Int} {value : Bool} (h : s.set x y value = .ok t) :
    t.dirty = true := by
  obtain ⟨p, -, rfl⟩ := Fault.exists_of_map_eq_ok h
  rfl

theorem dirty_of_flip {x y : Int} {lit : Bool} (h : s.flip x y = .ok (lit, t)) :
    t.dirty = true := by
  obtain ⟨p, -, eq⟩ := Fault.exists_of_map_eq_ok h
  cases eq
  rfl

end Screen

open Screen

/-! ### One command -/

/-- **Only two instructions draw, and they raise the flag.** -/
theorem State.drawnOn_of_exec {s : State} {i : Instr} {e : Effect} (h : s.exec i = .ok e) :
    s.screen.DrawnOn e.state.screen := by
  cases i with
  | clear =>
    cases h
    exact .inl rfl
  | draw x y rows =>
    -- The flag is raised after the sprite, so a sprite without a pixel raises it too.
    obtain ⟨sprite, -, h⟩ := Fault.exists_of_bind_eq_ok h
    cases h
    exact .inl rfl
  | _ => exact .inr ((frame_of_exec h).screen rfl)

theorem State.Goes.drawnOn {s t : State} (h : s.Goes t) : s.screen.DrawnOn t.screen := by
  cases h with
  | stays => exact .refl _
  | resumes mode register down => exact .inr rfl
  | @executes i e exec =>
    obtain ⟨executed, counted⟩ := e.state.exists_executed_tally
    rw [counted]
    exact State.drawnOn_of_exec exec

namespace Command

/-- Whether a command lowers the flag of the screen. -/
def lowers : Command → Bool
  | clearDrawPending => true
  | c => c.resets

variable {c : Command} {f : State → Except Fault State} {s t : State}

/-- **An edit that changes a pixel raises the flag.** -/
theorem drawnOn_of_edit (edit : c.edit? = some f) (keeps : c.lowers = false) (h : f s = .ok t) :
    s.screen.DrawnOn t.screen := by
  cases c with
  | keyDown i | keyUp i | setRegister i value | writeMemory address bytes =>
    cases edit
    obtain ⟨part, -, rfl⟩ := Fault.exists_of_map_eq_ok h
    exact .refl _
  | setPixel x y lit =>
    cases edit
    obtain ⟨screen, set, rfl⟩ := Fault.exists_of_map_eq_ok h
    exact .inl (dirty_of_set set)
  | flipPixel x y =>
    cases edit
    obtain ⟨screen, flipped, rfl⟩ := Fault.exists_of_map_eq_ok h
    exact .inl (dirty_of_flip flipped)
  | clearScreen | markDirty =>
    cases edit
    cases h
    exact .inl rfl
  | setPc value | setIndex value | setDelay value | setSound value =>
    cases edit
    cases h
    exact .refl _
  | clearDrawPending => cases keeps
  | reset now | load image | loadProgram values now | step now | executeNext | execute word
  | advanceTimers elapsed => cases edit

end Command

/-- **What a command does that does not lower the flag**: it raises the flag or leaves the screen
alone. -/
theorem State.Yields.drawnOn {s t : State} {c : Command} (h : s.Yields c t)
    (keeps : c.lowers = false) : s.screen.DrawnOn t.screen := by
  cases h with
  | stays => exact .refl _
  | edits edit edited => exact Command.drawnOn_of_edit edit keeps edited
  | loads memory => exact .refl _
  | goes timers goes => exact goes.drawnOn

namespace Machine

variable {m : Machine} {c : Command} {cs : List Command} {frame : Pixels}

/-- The pixels on the screen. -/
def pixels (m : Machine) : Pixels := m.state.screen.pixels

theorem drawnOn_perform (m : Machine) (keeps : c.lowers = false) :
    m.state.screen.DrawnOn (m.perform c).machine.state.screen := by
  have stays : c.resets = false := by
    cases c with
    | clearDrawPending => cases keeps
    | _ => exact keeps
  exact (m.yields_perform stays).drawnOn keeps

/-! ### What a polling host shows -/

/-- The pixels that a host shows after a command, if it showed `frame` before: those on the screen
just after the flag was lowered, if it was. -/
def shownAfter (m : Machine) (frame : Pixels) : Command → Pixels
  | .clearDrawPending => m.clearDrawPending.machine.pixels
  | .reset now => (m.reset now).machine.pixels
  | .loadProgram _ now => (m.reset now).machine.pixels
  | _ => frame

/-- The pixels that a host shows after a session, if it showed `frame` before. -/
def shownFrom (frame : Pixels) (m : Machine) : List Command → Pixels
  | [] => frame
  | c :: cs => shownFrom (m.shownAfter frame c) (m.perform c).machine cs

/-- The pixels that a host shows after a session: those just after the most recent command that
lowered the flag, or those that the machine started with. -/
def shown (m : Machine) (cs : List Command) : Pixels := shownFrom m.pixels m cs

theorem shownAfter_of_keeps (keeps : c.lowers = false) : m.shownAfter frame c = frame := by
  cases c with
  | clearDrawPending => cases keeps
  | reset now => cases keeps
  | loadProgram values now => cases keeps
  | _ => rfl

/-- What is on the screen after the flag was lowered is shown. A program that is loaded after a
reset changes no pixel. -/
theorem pixels_perform_of_lowers (lowers : c.lowers = true) :
    (m.perform c).machine.pixels = m.shownAfter frame c := by
  cases c with
  | clearDrawPending | reset now => rfl
  | loadProgram values now =>
    obtain ⟨memory, loaded⟩ := (m.reset now).machine.exists_memory_loadValues values
    show ((m.reset now).machine.loadValues values).machine.state.screen.pixels = _
    rw [loaded]
    rfl
  | _ => cases lowers

/-- **One command keeps the host up to date**: it is shown what is on the screen, or told that
something is pending. -/
theorem shownAfter_perform (h : m.isDrawPending = true ∨ m.pixels = frame) :
    (m.perform c).machine.isDrawPending = true ∨
      (m.perform c).machine.pixels = m.shownAfter frame c := by
  rcases lowers : c.lowers with _ | _
  · rw [shownAfter_of_keeps lowers]
    obtain raised | same := drawnOn_perform m lowers
    · exact .inl raised
    · rw [isDrawPending, pixels, same]
      exact h
  · exact .inr (pixels_perform_of_lowers lowers)

/-- A session keeps the host up to date. -/
theorem shownFrom_after (h : m.isDrawPending = true ∨ m.pixels = frame) :
    (m.after cs).isDrawPending = true ∨ (m.after cs).pixels = shownFrom frame m cs := by
  induction cs generalizing m frame with
  | nil => exact h
  | cons c cs ih => exact ih (shownAfter_perform h)

/-- **No frame is lost to a polling host.** After any session, with commands that were refused among
it: as long as nothing is pending, the pixels on the screen are those that were there just after the
most recent command that lowered the flag, or at the start. And only such a command takes the flag
from raised to lowered. -/
theorem pixels_eq_shown (m : Machine) (cs : List Command) :
    ((m.after cs).isDrawPending = false → (m.after cs).pixels = m.shown cs) ∧
    ∀ c, (m.after cs).isDrawPending = true →
      ((m.after cs).perform c).machine.isDrawPending = false →
      c = .clearDrawPending ∨ c.resets = true := by
  refine ⟨fun nothing ↦ ?_, fun c pending lowered ↦ ?_⟩
  · have start : m.isDrawPending = true ∨ m.pixels = m.pixels := .inr rfl
    refine (shownFrom_after start).resolve_left fun pending ↦ ?_
    rw [nothing] at pending
    cases pending
  · have lowers : c.lowers = true := by
      refine Bool.of_not_eq_false fun keeps ↦ ?_
      have still := (drawnOn_perform (m.after cs) keeps).dirty pending
      rw [isDrawPending, still] at lowered
      cases lowered
    cases c with
    | clearDrawPending => exact .inl rfl
    | _ => exact .inr lowers

/-- A glyph is drawn and shown; then a sprite beyond the memory and a pixel beside the screen are
refused. -/
def glyphSession : List Command :=
  [.execute 0xD015, .clearDrawPending, .setIndex 0xFFE, .execute 0xD015, .setPixel 64 0 true]

/-- At the end of that session nothing is pending, and the glyph is what was shown. -/
theorem pixels_of_glyphSession :
    ((standard 0x200).after glyphSession).pixels = (standard 0x200).shown glyphSession ∧
    litCount ((standard 0x200).after glyphSession).state.screen.toLists = 14 ∧
    (Command.clearDrawPending = .clearDrawPending ∨ Command.clearDrawPending.resets = true) := by
  refine ⟨?_, by decide +kernel, ?_⟩
  · exact (pixels_eq_shown (standard 0x200) glyphSession).1 (by decide +kernel)
  · exact (pixels_eq_shown (standard 0x200) (glyphSession.take 1)).2 .clearDrawPending
      (by decide +kernel) (by decide +kernel)

end Machine

end Chip8
