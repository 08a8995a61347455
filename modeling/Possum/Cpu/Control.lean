import Possum.Cpu.Decode

/-!
# Instructions and the interrupt fields

`control_exec` says once what an instruction does to the five fields that govern interrupts:
HALT, DI, EI, IM and the two returns from interrupts set some of them, every other
instruction leaves them alone.
-/

set_option autoImplicit false

namespace Possum

/-- What an instruction makes of the interrupt fields. -/
def Instr.effect (k : Cpu.Control) : Instr → Cpu.Control
  | .halt => { k with halted := true }
  | .disableInterrupts => { k with iff1 := false, iff2 := false }
  | .enableInterrupts => { k with enableInterruptsNextCycle := true }
  | .setInterruptMode mode => { k with interruptMode := mode }
  | .retnWz => { k with iff1 := k.iff2 }
  | .retiWz => { k with iff1 := k.iff2 }
  | _ => k

namespace Cpu

/-! ### Flags and bases -/

@[simp] theorem control_setIncFlags (c : Cpu) (data : U8) :
    (c.setIncFlags data).control = c.control := by
  simp [setIncFlags, setResultFlags]

@[simp] theorem control_setDecFlags (c : Cpu) (data : U8) :
    (c.setDecFlags data).control = c.control := by
  simp [setDecFlags, setResultFlags]

@[simp] theorem control_setBitFlags (c : Cpu) (xy result : U8) :
    (c.setBitFlags xy result).control = c.control := by
  simp [setBitFlags, setResultFlags]

@[simp] theorem control_setParityFlags (c : Cpu) (result : U8) :
    (c.setParityFlags result).control = c.control := by
  simp [setParityFlags, setResultFlags]

@[simp] theorem control_setResultFlags (c : Cpu) (n pv h : Bool) (xy result : U8) :
    (c.setResultFlags n pv h xy result).control = c.control := by
  simp only [setResultFlags, control_setFlag]

@[simp] theorem control_setWideResultFlags (c : Cpu) (n pv h : Bool) (result : U16) :
    (c.setWideResultFlags n pv h result).control = c.control := by
  simp only [setWideResultFlags, control_setFlag]

@[simp] theorem control_addCarryBase (c : Cpu) (rhs : U8) (carry : Bool) :
    (c.addCarryBase rhs carry).control = c.control := by
  simp [addCarryBase]

@[simp] theorem control_subCarryBase (c : Cpu) (rhs : U8) (carry : Bool) :
    (c.subCarryBase rhs carry).control = c.control := by
  simp [subCarryBase]

@[simp] theorem control_logicBase (c : Cpu) (result : U8) (h : Bool) :
    (c.logicBase result h).control = c.control := by
  simp [logicBase]

@[simp] theorem control_andBase (c : Cpu) (rhs : U8) : (c.andBase rhs).control = c.control := by
  simp [andBase]

@[simp] theorem control_xorBase (c : Cpu) (rhs : U8) : (c.xorBase rhs).control = c.control := by
  simp [xorBase]

@[simp] theorem control_orBase (c : Cpu) (rhs : U8) : (c.orBase rhs).control = c.control := by
  simp [orBase]

@[simp] theorem control_compareBase (c : Cpu) (rhs : U8) :
    (c.compareBase rhs).control = c.control := by
  simp [compareBase]

@[simp] theorem control_rotateA (c : Cpu) (result : U8) (carry : Bool) :
    (c.rotateA result carry).1.control = c.control := by
  simp [rotateA]

variable {β : Type} [Bus β]

@[simp] theorem control_indexAddress (c : Cpu) (index : WideRegister) (bus : β) :
    (c.indexAddress index bus).2.control = c.control := rfl

@[simp] theorem control_pushBase (c : Cpu) (data : U16) (bus : β) :
    (c.pushBase data bus).1.control = c.control := rfl

@[simp] theorem control_popBase (c : Cpu) (bus : β) :
    (c.popBase bus).2.control = c.control := rfl

@[simp] theorem control_setShiftFlags (c : Cpu) (carry : Bool) (result : U8) :
    (c.setShiftFlags carry result).control = c.control := by
  simp [setShiftFlags, setParityFlags]

/-- Copying the result to a register adds nothing to what the base does. -/
@[simp] theorem control_modifyIndexIndirectWz (base : Cpu → U8 → U8 × Cpu) (c : Cpu)
    (offset : U16) (index : WideRegister) (reg : Option Register) (bus : β) :
    (modifyIndexIndirectWz base c offset index reg bus).cpu.control =
      (base (c.setWz (c.wideRegister index + offset))
        (Bus.read bus (c.wideRegister index + offset))).2.control := by
  cases reg <;> simp [modifyIndexIndirectWz]

@[simp] theorem control_loadBlock (move : U16 → U16) (c : Cpu) (bus : β) :
    (loadBlock move c bus).cpu.control = c.control := by
  simp [loadBlock]

@[simp] theorem control_compareBlock (move : U16 → U16) (c : Cpu) (bus : β) :
    (compareBlock move c bus).cpu.control = c.control := by
  simp [compareBlock]

@[simp] theorem control_inputBlock (move : U16 → U16) (c : Cpu) (bus : β) :
    (inputBlock move c bus).1.control = c.control := by
  simp [inputBlock]

@[simp] theorem control_outputBlock (move : U16 → U16) (c : Cpu) (bus : β) :
    (outputBlock move c bus).1.control = c.control := by
  simp [outputBlock]

omit [Bus β] in
theorem control_rewound_or_not (again : Bool) (o : Outcome β) :
    (if again then rewound o else o).cpu.control = o.cpu.control := by
  cases again <;> simp [rewound]

omit [Bus β] in
@[simp] theorem control_repeatPort (r : Cpu × β) :
    (repeatPort r).cpu.control = r.1.control := by
  simp only [repeatPort]
  split <;> simp

/-! ### Instructions -/

/-- **The effect of an instruction on the interrupt fields.** -/
theorem control_exec (c : Cpu) (bus : β) (i : Instr) :
    (c.exec bus i).cpu.control = i.effect c.control := by
  cases i with
  | halt | disableInterrupts | enableInterrupts | setInterruptMode | retnWz | retiWz
  | exchangeExtra => rfl
  | ldir => exact (control_rewound_or_not _ _).trans (control_loadBlock up c bus)
  | lddr => exact (control_rewound_or_not _ _).trans (control_loadBlock down c bus)
  | cpir => exact (control_rewound_or_not _ _).trans (control_compareBlock up c bus)
  | cpdrWz => exact (control_rewound_or_not _ _).trans (control_compareBlock down c bus)
  | _ =>
    simp [exec, Instr.effect, still, nop, readWideImmediate, writeIndirectWz, incWide, incWz,
      decWz, readImmediate, rlca, exchange, addWideWz, readIndirectWz, decWide, rrca, djnzWz,
      rla, jumpRelativeWz, rra, conditionalJumpRelativeWz, writeWideAbsoluteWz, daa,
      readWideAbsoluteWz, cpl, writeAbsoluteWz, incHlIndirect, decHlIndirect,
      writeImmediateHlIndirect, scf, readAbsoluteWz, ccf, copyRegister,
      copyRegisterHlIndirect, copyHlIndirectRegister, addCarry, addCarryHlIndirect, subCarry,
      subCarryHlIndirect, and, andHlIndirect, xor, xorHlIndirect, or, orHlIndirect, compare,
      compareHlIndirect, conditionalReturnWz, pop, conditionalJumpWz, jumpWz,
      conditionalCallWz, push, addCarryImmediate, resetWz, returnWz, callWz,
      outputImmediateIndirect, subCarryImmediate, inputImmediateIndirect,
      exchangeStackPointerIndirectWz, andImmediate, jumpIndirect, xorImmediate, orImmediate,
      copyWideRegister, compareImmediate, rlcRegister, rlcHlIndirect, rrcRegister,
      rrcHlIndirect, rlRegister, rlHlIndirect, rrRegister, rrHlIndirect, slaRegister,
      slaHlIndirect, sraRegister, sraHlIndirect, sllRegister, sllHlIndirect, srlRegister,
      srlHlIndirect, bitRegister, bitHlIndirectWz, resetBitRegister, resetBitHlIndirect,
      setBitRegister, setBitHlIndirect, incIndexIndirectWz, decIndexIndirectWz,
      writeImmediateIndexIndirectWz, readIndexIndirectWz, writeIndexIndirectWz,
      addCarryIndexIndirectWz, subCarryIndexIndirectWz, andIndexIndirectWz,
      xorIndexIndirectWz, orIndexIndirectWz, compareIndexIndirectWz, input, output,
      subCarryWideWz, neg, addCarryWideWz, copyIrRegister, rrdWz, rldWz, inputAndDrop,
      outputZero, ldi, cpiWz, iniWz, outiWz, ldd, cpdWz, indWz, outdWz, inirWz, otirWz,
      indrWz, otdrWz, rlcIndexIndirectWz, rrcIndexIndirectWz,
      rlIndexIndirectWz, rrIndexIndirectWz, slaIndexIndirectWz, sraIndexIndirectWz,
      sllIndexIndirectWz, srlIndexIndirectWz, bitIndexIndirectWz, resetBitIndexIndirectWz,
      setBitIndexIndirectWz, hlIndirect, withImmediate, indexIndirectWz, modifyRegister,
      modifyHlIndirect, rlcBase, rrcBase, rlBase, rrBase, slaBase, sraBase, sllBase, srlBase,
      resetBitBase, setBitBase, apply_ite Outcome.cpu, apply_ite control]

end Cpu

end Possum
