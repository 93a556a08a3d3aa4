import Mathlib.Logic.Function.Basic
import SamV71Runtime.ByteMemory

/-!
# Straight-line Thumb code

The instructions that a handler of exceptions is written in, on a machine with the special
registers of ARMv7-M. Words at device addresses are registers of the hardware: a read
returns what the hardware shows, and a write is written down. Code is a list that ends with
a branch; labels name the words that lie behind it.
-/
namespace Thumb
open ByteMemory

inductive Register where
  | r0
  | r1
  | r2
  | r3
  | r4
  | r5
  | r6
  | r7
  | r8
  | r9
  | r10
  | r11
  | r12
  | lr
  deriving DecidableEq

structure SpecialRegisters where
  ipsr : BitVec 9
  msp : BitVec 32
  psp : BitVec 32
  primask : BitVec 1
  faultmask : BitVec 1
  basepri : BitVec 8
  control : BitVec 3

inductive Special where
  | ipsr
  | msp
  | psp
  | primask
  | faultmask
  | basepri
  | control

def SpecialRegisters.read (registers : SpecialRegisters) : Special → BitVec 32
  | .ipsr => registers.ipsr.setWidth 32
  | .msp => registers.msp
  | .psp => registers.psp
  | .primask => registers.primask.setWidth 32
  | .faultmask => registers.faultmask.setWidth 32
  | .basepri => registers.basepri.setWidth 32
  | .control => registers.control.setWidth 32

/-- `zero` is the flag that `eq` and `ne` look at. -/
structure Machine where
  general : Register → BitVec 32
  special : SpecialRegisters
  zero : Bool
  memory : Memory
  device : Address → BitVec 32
  deviceWrites : List (Address × BitVec 32)

inductive Condition where
  | always
  | eq
  | ne

def Condition.Holds : Condition → Bool → Bool
  | .always, _ => true
  | .eq, zero => zero
  | .ne, zero => !zero

/-- An `ite` only announces the conditions of the next two instructions. -/
inductive Instruction (Label Target : Type*) where
  | cpsid
  | tst (rn : Register) (immediate : BitVec 32)
  | ite
  | mrs (condition : Condition) (rd : Register) (special : Special)
  | ldrLabel (rt : Register) (label : Label)
  | ldr (rt rn : Register) (offset : BitVec 32)
  | ldrPost (rt rn : Register) (offset : BitVec 32)
  | str (rt rn : Register) (offset : BitVec 32)
  | and (rd rn : Register) (immediate : BitVec 32)
  | b (target : Target)

/-- The peripheral and the system regions. -/
def isDevice (address : Address) : Bool :=
  (0x40000000#32 ≤ address && address < 0x60000000#32) || 0xE0000000#32 ≤ address

theorem isDevice_of_lt {address : Address} (h : address.toNat < 0x40000000) :
    isDevice address = false := by
  simp only [isDevice, BitVec.le_def, BitVec.lt_def, BitVec.toNat_ofNat, Bool.or_eq_false_iff,
    Bool.and_eq_false_iff, decide_eq_false_iff_not]
  omega

namespace Machine

def set (m : Machine) (register : Register) (value : BitVec 32) : Machine :=
  { m with general := Function.update m.general register value }

def load (m : Machine) (address : Address) : BitVec 32 :=
  if isDevice address then m.device address else loadWord m.memory address

def store (m : Machine) (address : Address) (value : BitVec 32) : Machine :=
  if isDevice address then { m with deviceWrites := m.deviceWrites ++ [(address, value)] }
  else { m with memory := storeWord m.memory address value }

@[simp] theorem set_general_self (m : Machine) (r : Register) (value : BitVec 32) :
    (m.set r value).general r = value := by
  simp only [set, Function.update_self]

theorem set_general_of_ne (m : Machine) {r s : Register} (h : s ≠ r) (value : BitVec 32) :
    (m.set r value).general s = m.general s := by
  simp only [set, Function.update_of_ne h]

@[simp] theorem store_general (m : Machine) (address : Address) (value : BitVec 32) :
    (m.store address value).general = m.general := by
  unfold store
  split <;> rfl

end Machine

variable {Label Target : Type*}

/-- What an instruction does, other than a branch. -/
def step (words : Label → BitVec 32) (m : Machine) : Instruction Label Target → Machine
  | .cpsid => { m with special := { m.special with primask := 1 } }
  | .tst rn immediate => { m with zero := m.general rn &&& immediate = 0 }
  | .ite => m
  | .mrs condition rd special =>
      if condition.Holds m.zero then m.set rd (m.special.read special) else m
  | .ldrLabel rt label => m.set rt (words label)
  | .ldr rt rn offset => m.set rt (m.load (m.general rn + offset))
  | .ldrPost rt rn offset =>
      let address := m.general rn
      (m.set rn (address + offset)).set rt (m.load address)
  | .str rt rn offset => m.store (m.general rn + offset) (m.general rt)
  | .and rd rn immediate => m.set rd (m.general rn &&& immediate)
  | .b _ => m

/-- Where the code branches to, and the machine there; `none` is code that runs out. -/
def execute (words : Label → BitVec 32) :
    List (Instruction Label Target) → Machine → Option (Target × Machine)
  | [], _ => none
  | .b target :: _, m => some (target, m)
  | i :: rest, m => execute words rest (step words m i)

/-- The code branches to a machine and a target of which `Q` holds. -/
def Ends (words : Label → BitVec 32) (code : List (Instruction Label Target)) (m : Machine)
    (Q : Target → Machine → Prop) : Prop :=
  ∃ target after, execute words code m = some (target, after) ∧ Q target after

namespace Ends
variable {words : Label → BitVec 32} {rest : List (Instruction Label Target)} {m : Machine}
  {Q : Target → Machine → Prop}

theorem cpsid (h : Ends words rest { m with special := { m.special with primask := 1 } } Q) :
    Ends words (.cpsid :: rest) m Q := h

theorem tst {rn : Register} {immediate : BitVec 32}
    (h : Ends words rest { m with zero := m.general rn &&& immediate = 0 } Q) :
    Ends words (.tst rn immediate :: rest) m Q := h

theorem ite (h : Ends words rest m Q) : Ends words (.ite :: rest) m Q := h

theorem mrs {rd : Register} {special : Special}
    (h : Ends words rest (m.set rd (m.special.read special)) Q) :
    Ends words (.mrs .always rd special :: rest) m Q := h

/-- The two instructions of an `ite eq` that read a special register each. -/
theorem mrs_eq_ne {rd : Register} {special special' : Special}
    (h : Ends words rest (m.set rd (m.special.read (if m.zero then special else special'))) Q) :
    Ends words (.mrs .eq rd special :: .mrs .ne rd special' :: rest) m Q := by
  change Ends words rest (step words (step words m (.mrs .eq rd special : Instruction Label Target))
    (.mrs .ne rd special' : Instruction Label Target)) Q
  cases hzero : m.zero <;> simpa [step, Condition.Holds, hzero, Machine.set] using h

theorem ldrLabel {rt : Register} {label : Label} (h : Ends words rest (m.set rt (words label)) Q) :
    Ends words (.ldrLabel rt label :: rest) m Q := h

theorem ldr {rt rn : Register} {offset : BitVec 32}
    (h : Ends words rest (m.set rt (m.load (m.general rn + offset))) Q) :
    Ends words (.ldr rt rn offset :: rest) m Q := h

theorem ldrPost {rt rn : Register} {offset : BitVec 32}
    (h : Ends words rest
      ((m.set rn (m.general rn + offset)).set rt (m.load (m.general rn))) Q) :
    Ends words (.ldrPost rt rn offset :: rest) m Q := h

theorem str {rt rn : Register} {offset : BitVec 32}
    (h : Ends words rest (m.store (m.general rn + offset) (m.general rt)) Q) :
    Ends words (.str rt rn offset :: rest) m Q := h

theorem and {rd rn : Register} {immediate : BitVec 32}
    (h : Ends words rest (m.set rd (m.general rn &&& immediate)) Q) :
    Ends words (.and rd rn immediate :: rest) m Q := h

theorem b {target : Target} (h : Q target m) : Ends words (.b target :: rest) m Q :=
  ⟨target, m, rfl, h⟩

end Ends

end Thumb
