import Chip8.Proofs.Counting
import Chip8.Proofs.Footprint
import Mathlib.Data.Nat.ModEq

/-!
# The random bytes of a session

A machine draws its random bytes from a source that is part of its state, and no reset puts it back.
With a source that replays a list of values, what a program gets is therefore settled by how many
random words were completed since the machine was switched on, and by nothing else: the one that
comes after `k` others gets the value at `k` modulo the length of the list
(`Machine.random_stream`).

There are two halves to this. `Cycle.At` is where a source stands after `k` draws, and a draw moves
it on by one (`Cycle.At.next`). And of all that a host can do only the execution of a random word
draws, and it draws once (`Machine.random_perform`).
-/

namespace Chip8

/-! ### Sources that replay -/

/-- A cycle that replays a round has made `k` draws. -/
structure Cycle.At (round : List Byte) (k : Nat) (c : Cycle) : Prop where
  values : c.values = round
  draws : c.draws = k
  /-- What is left of the current round is what the draws after the last whole round did not take. A
  round that is over is only replaced by the next draw. -/
  pending : ∃ taken, taken ++ c.pending = round ∧ taken.length ≡ k [MOD round.length]

namespace Cycle

variable {round : List Byte} {k : Nat} {c : Cycle}

/-- A list that is not empty can be replayed, and nothing is drawn at the start. -/
theorem exists_ofValues {values : List Int} (nonempty : values ≠ []) :
    ∃ c, ofValues values = .ok c ∧ c.At (values.map Byte.ofInt) 0 := by
  obtain ⟨value, rest, rfl⟩ := List.exists_cons_of_ne_nil nonempty
  exact ⟨_, rfl, rfl, rfl, [], rfl, rfl⟩

/-- **A draw answers the byte whose turn it is**, and goes on to the next one. -/
theorem At.next (h : c.At round k) :
    round[k % round.length]? = some c.next.1 ∧ c.next.2.At round (k + 1) := by
  obtain ⟨taken, split, turn⟩ := h.pending
  rcases left : c.pending with - | ⟨b, bs⟩
  · -- The round is over, so its first byte is the next one.
    rw [left, List.append_nil] at split
    subst split
    have complete : k % taken.length = 0 := by
      rw [← turn, Nat.mod_self]
    have start : 0 ≡ k [MOD taken.length] := complete.symm
    have drawn : c.next = (c.first, { c with pending := c.rest, draws := c.draws + 1 }) := by
      rw [Cycle.next, left]
    rw [drawn]
    refine ⟨?_, h.values, congrArg (· + 1) h.draws, [c.first], h.values, start.add_right 1⟩
    rw [complete, ← h.values]
    rfl
  · rw [left] at split
    have length : taken.length + (bs.length + 1) = round.length := by
      rw [← split, List.length_append, List.length_cons]
    have inside : k % round.length = taken.length := by
      rw [← turn, Nat.mod_eq_of_lt (by omega)]
    have drawn : c.next = (b, { c with pending := bs, draws := c.draws + 1 }) := by
      rw [Cycle.next, left]
    rw [drawn]
    refine ⟨?_, h.values, congrArg (· + 1) h.draws, taken ++ [b], ?_, ?_⟩
    · rw [inside, ← split, List.getElem?_append_right (Nat.le_refl _), Nat.sub_self]
      rfl
    · rw [List.append_assoc]
      exact split
    · rw [List.length_append]
      exact turn.add_right 1

end Cycle

namespace RandomSource

variable {round : List Byte} {k : Nat} {s : RandomSource}

/-- A source that replays a round has made `k` draws. -/
def At (round : List Byte) (k : Nat) : RandomSource → Prop
  | cycle c => c.At round k
  | twister _ => False

theorem At.draws? (h : s.At round k) : s.draws? = some k := by
  rcases s with c | t
  · exact congrArg some h.draws
  · exact h.elim

theorem At.next (h : s.At round k) :
    round[k % round.length]? = some s.next.1 ∧ s.next.2.At round (k + 1) := by
  rcases s with c | t
  · exact Cycle.At.next h
  · exact h.elim

end RandomSource

namespace Machine

variable {m : Machine} {c : Command} {w : Word} {round : List Byte} {k : Nat}

/-! ### Words -/

/-- A random word draws a byte and puts into its register the bits of it that the word names. -/
theorem exec_rnd (s : State) (w : Word) :
    ∃ t : State, s.exec (Opcode.rnd.instr w) = .ok (.silent t) ∧
      t.v (Word.x w) = s.random.next.1 &&& Word.nn w :=
  ⟨_, rfl, State.v_setV_self ..⟩

/-- **A random word is never refused**, and it does not wait. -/
theorem completesWord_of_rnd (fits : Opcode.rnd.Fits w) : m.completesWord w = true := by
  obtain ⟨t, exec, -⟩ := exec_rnd m.state w
  have goes : ¬m.Awaits w := by
    rintro ⟨key, -⟩
    cases Opcode.eq_of_fits fits key
  rw [completesWord, execute_of_exec_ok (decode_of_fits fits) exec, decide_eq_false goes]
  rfl

theorem v_execute_of_rnd (fits : Opcode.rnd.Fits w) :
    (m.execute w).machine.state.v (Word.x w) = m.state.random.next.1 &&& Word.nn w := by
  obtain ⟨t, exec, value⟩ := exec_rnd m.state w
  rw [state_execute_of_exec_ok (decode_of_fits fits) exec, State.v_tally]
  exact value

/-- A random word draws once, and no other word draws. -/
theorem random_execute (m : Machine) (w : Word) :
    (m.execute w).machine.state.random =
      if Opcode.rnd.Fits w then m.state.random.next.2 else m.state.random := by
  rcases answer : (m.execute w).answer with f | a
  · have other : ¬Opcode.rnd.Fits w := by
      intro fits
      have completed := completesWord_of_rnd (m := m) fits
      rw [completesWord, answer] at completed
      cases completed
    rw [state_execute_of_error answer, if_neg other]
  · obtain ⟨i, e, decodes, exec, state⟩ := exists_exec_of_execute answer
    obtain ⟨op, fits, rfl⟩ := decode_eq_some_iff.1 decodes
    have same : op = .rnd ↔ Opcode.rnd.Fits w := by
      refine ⟨?_, Opcode.eq_of_fits fits⟩
      rintro rfl
      exact fits
    rw [state, State.random_tally, State.random_of_exec exec, if_congr same rfl rfl]

/-! ### Commands -/

/-- A word that is fetched is executed. -/
theorem executeNext_of_next (h : m.next? = some w) : m.executeNext = (m.execute w).map some := by
  rcases m.executeNext_cases with
    ⟨waits, -, -⟩ | ⟨x, key, waits, -, -, -⟩ | ⟨f, runs, fails, -⟩ | ⟨v, runs, fetched, eq⟩
  · rw [next?, waits] at h
    cases h
  · rw [next?, waits] at h
    cases h
  · rw [next?, runs, fails] at h
    cases h
  · obtain rfl : v = w := Option.some.inj ((next?_of_readWord runs fetched).symm.trans h)
    exact eq

/-- Where no word is fetched no byte is drawn. -/
theorem random_executeNext_of_next_eq_none (h : m.next? = none) :
    m.executeNext.machine.state.random = m.state.random := by
  rcases m.executeNext_cases with
    ⟨-, -, eq⟩ | ⟨x, key, -, -, -, eq⟩ | ⟨f, -, -, eq⟩ | ⟨w, runs, fetched, -⟩
  · rw [eq]
  · rw [eq, state_emit]
    rfl
  · rw [eq]
  · rw [next?_of_readWord runs fetched] at h
    cases h

/-- A command that executes a word leaves what the word leaves, but for ticks of the timers. -/
theorem exists_timers_of_executes (h : m.executes? c = some w) :
    ∃ timers, (m.perform c).machine.state = { (m.execute w).machine.state with timers } := by
  cases c with
  | execute word =>
    obtain rfl : Word.ofInt word = w := Option.some.inj h
    exact ⟨_, rfl⟩
  | executeNext =>
    have state : (m.perform .executeNext).machine.state = m.executeNext.machine.state := rfl
    rw [state, executeNext_of_next h]
    exact ⟨_, rfl⟩
  | step now =>
    obtain ⟨timers, stepped⟩ := m.exists_timers_step now
    rw [executeNext_of_next h] at stepped
    exact ⟨timers, stepped⟩
  | _ => cases h

/-- No reset rewinds the source. -/
theorem random_reset (m : Machine) (now : Int) :
    (m.reset now).machine.state.random = m.state.random := by
  rw [reset_eq, State.reset]

theorem random_loadValues (m : Machine) (values : List Int) :
    (m.loadValues values).machine.state.random = m.state.random := by
  obtain ⟨memory, loaded⟩ := m.exists_memory_loadValues values
  rw [loaded]

/-- A command that executes no word draws no byte. -/
theorem random_perform_of_executes_eq_none (h : m.executes? c = none) :
    (m.perform c).machine.state.random = m.state.random := by
  rcases edit : c.edit? with - | f
  · cases c with
    | reset now => exact m.random_reset now
    | load values => exact m.random_loadValues values
    | loadProgram values now =>
      exact ((m.reset now).machine.random_loadValues values).trans (m.random_reset now)
    | step now =>
      obtain ⟨timers, stepped⟩ := m.exists_timers_step now
      show (m.step now).machine.state.random = m.state.random
      rw [stepped]
      exact random_executeNext_of_next_eq_none h
    | executeNext => exact random_executeNext_of_next_eq_none h
    | execute word => cases h
    | advanceTimers elapsed =>
      obtain ⟨timers, advanced⟩ := m.exists_timers_advanceTimers elapsed
      show (m.advanceTimers elapsed).machine.state.random = m.state.random
      rw [advanced]
    | _ => cases edit
  · rcases edited : f m.state with e | t
    · rw [perform_of_edit_error edit edited]
    · rw [perform_of_edit_ok edit edited]
      exact (Command.executed_random_of_edit edit edited).2

/-- The random word that a command completes, if it completes one. -/
def rolls? (m : Machine) (c : Command) : Option Word :=
  (m.executes? c).filter fun w ↦ Opcode.rnd.Fits w && m.completesWord w

theorem rolls?_eq_some_iff : m.rolls? c = some w ↔ m.executes? c = some w ∧ Opcode.rnd.Fits w := by
  rw [rolls?, Option.filter_eq_some_iff, Bool.and_eq_true, decide_eq_true_iff]
  refine and_congr_right fun _ ↦ and_iff_left_of_imp ?_
  exact completesWord_of_rnd

/-- **A command draws once if it completes a random word, and otherwise not at all.** -/
theorem random_perform (m : Machine) (c : Command) :
    (m.perform c).machine.state.random =
      if (m.rolls? c).isSome then m.state.random.next.2 else m.state.random := by
  rcases executes : m.executes? c with - | w
  · rw [random_perform_of_executes_eq_none executes, rolls?, executes]
    rfl
  · have rolls : (m.rolls? c).isSome = true ↔ Opcode.rnd.Fits w := by
      rw [Option.isSome_iff_exists]
      refine ⟨?_, fun fits ↦ ⟨w, rolls?_eq_some_iff.2 ⟨executes, fits⟩⟩⟩
      rintro ⟨v, rolled⟩
      obtain ⟨same, fits⟩ := rolls?_eq_some_iff.1 rolled
      obtain rfl : w = v := Option.some.inj (executes.symm.trans same)
      exact fits
    obtain ⟨timers, state⟩ := exists_timers_of_executes executes
    rw [state, if_congr rolls rfl rfl]
    exact m.random_execute w

/-- A random word that is completed leaves the bits of the drawn byte in its register. -/
theorem v_perform_of_rolls (h : m.rolls? c = some w) :
    (m.perform c).machine.state.v (Word.x w) = m.state.random.next.1 &&& Word.nn w := by
  obtain ⟨executes, fits⟩ := rolls?_eq_some_iff.1 h
  obtain ⟨timers, state⟩ := exists_timers_of_executes executes
  rw [state]
  exact v_execute_of_rnd fits

/-! ### The life of a machine -/

/-- The machines that a host can come to from one that is switched on with a given source, each with
the number of random words that were completed since. -/
inductive HasRolled (source : RandomSource) : Machine → Nat → Prop
  /-- A machine that was just switched on. -/
  | powerOn (setup : Setup) (now : Int) :
      HasRolled source (Machine.powerOn setup source now).machine 0
  /-- A machine after a command, also after one that it refused. -/
  | perform {m : Machine} {k : Nat} (h : HasRolled source m k) (c : Command) :
      HasRolled source (m.perform c).machine (k + (m.rolls? c).isSome.toNat)
  /-- A machine with other observers. -/
  | observe {m : Machine} {k : Nat} (h : HasRolled source m k) (tracer : Tracer Event) :
      HasRolled source { m with tracer } k

/-- How many random words a session completes. -/
def rolled (m : Machine) : List Command → Nat
  | [] => 0
  | c :: cs => (m.rolls? c).isSome.toNat + (m.perform c).machine.rolled cs

theorem HasRolled.after {source : RandomSource} (h : m.HasRolled source k) (cs : List Command) :
    (m.after cs).HasRolled source (k + m.rolled cs) := by
  induction cs generalizing m k with
  | nil => exact h
  | cons c cs ih =>
    have rest := ih (h.perform c)
    rw [Nat.add_assoc] at rest
    exact rest

/-- **The source has drawn a byte for each random word that was completed.** -/
theorem HasRolled.random_at {source : RandomSource} (h : m.HasRolled source k)
    (start : source.At round 0) : m.state.random.At round k := by
  induction h with
  | powerOn setup now => exact start
  | @perform m k _ c ih =>
    rw [random_perform]
    rcases m.rolls? c with - | w
    · exact ih
    · exact ih.next.2
  | observe _ tracer ih => exact ih

/-- The bits of a value that a random word leaves in its register. -/
theorem toNat_ofInt_and_nn (value : Int) (w : Word) :
    (Byte.ofInt value &&& Word.nn w).toNat = (value % 0x100).toNat &&& w.toNat % 0x100 := by
  rw [BitVec.toNat_and, Word.toNat_nn, Byte.ofInt, BitVec.toNat_ofInt]
  rfl

/-- **Random words take the values of a list in turn.** A machine is switched on with a source that
replays the list, and then anything is done to it. At any time the source has drawn one byte for
each random word that was completed, and the next such word takes the value whose turn it is,
however often the machine was reset and loaded, waited or ran into faults in between. -/
theorem random_stream {values : List Int} (nonempty : values ≠ []) :
    ∃ source, Cycle.ofValues values = .ok source ∧
      ∀ m k, Machine.HasRolled (.cycle source) m k →
        m.state.random.draws? = some k ∧
        ∀ c w, m.rolls? c = some w →
          ∃ value, values[k % values.length]? = some value ∧
            ((m.perform c).machine.state.v (Word.x w)).toNat =
              (value % 0x100).toNat &&& w.toNat % 0x100 := by
  obtain ⟨source, made, start⟩ := Cycle.exists_ofValues nonempty
  refine ⟨source, made, fun m k lived ↦ ?_⟩
  have stands : m.state.random.At (values.map Byte.ofInt) k := lived.random_at start
  refine ⟨stands.draws?, fun c w rolls ↦ ?_⟩
  have turn := stands.next.1
  rw [List.length_map, List.getElem?_map, Option.map_eq_some_iff] at turn
  obtain ⟨value, taken, byte⟩ := turn
  refine ⟨value, taken, ?_⟩
  rw [v_perform_of_rolls rolls, ← byte, toNat_ofInt_and_nn]

/-- Two values to replay, neither of which is a byte. -/
def diceValues : List Int := [-1, 0x1234]

/-- A machine that replays them. -/
def dicing : Machine :=
  (powerOn ⟨Timers.standardPeriod, Timers.standardPeriod_pos, 0x200, false⟩
    (.cycle ⟨0xFF, [0x34], [0xFF, 0x34], 0⟩) 0).machine

/-- Two random words are completed; a host has a third one executed while the machine waits for a
key. Then there is a fault, a reset, and a program that begins with another one. -/
def diceSession : List Command :=
  [.loadProgram [0xC1, 0x0F, 0xC2, 0xFF, 0xF3, 0x0A, 0x00, 0xEE] 0, .step 10, .executeNext,
    .executeNext, .execute 0xC4F0, .step 20, .keyDown 7, .executeNext, .executeNext, .reset 30,
    .loadProgram [0xC5, 0xF3] 40]

/-- After the three words of that session the next one takes the second value. -/
theorem random_stream_of_diceSession :
    (dicing.after diceSession).state.random.draws? = some 3 ∧
    ((dicing.after diceSession).perform (.step 50)).machine.state.v 5 = 0x34 &&& 0xF3 := by
  have nonempty : diceValues ≠ [] := by decide
  obtain ⟨source, made, stream⟩ := random_stream nonempty
  obtain rfl : (⟨0xFF, [0x34], [0xFF, 0x34], 0⟩ : Cycle) = source := Except.ok.inj made
  have fresh : Machine.HasRolled (.cycle ⟨0xFF, [0x34], [0xFF, 0x34], 0⟩) dicing 0 :=
    .powerOn ⟨Timers.standardPeriod, Timers.standardPeriod_pos, 0x200, false⟩ 0
  have lived := fresh.after diceSession
  have rolled : 0 + dicing.rolled diceSession = 3 := by decide +kernel
  rw [rolled] at lived
  obtain ⟨draws, next⟩ := stream _ _ lived
  refine ⟨draws, ?_⟩
  have rolls : (dicing.after diceSession).rolls? (.step 50) = some 0xC5F3 := by decide +kernel
  obtain ⟨value, turn, left⟩ := next _ _ rolls
  obtain rfl : 0x1234 = value := Option.some.inj turn
  exact BitVec.eq_of_toNat_eq left

end Machine

end Chip8
